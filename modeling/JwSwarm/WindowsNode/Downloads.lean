import JwSwarm.WindowsNode.Coordinator

namespace JwSwarm.WindowsNode

open Data Proto Transition Machine

/-! What the tables behind the download lock keep: one download of a model at a
time, none of an artifact that has just failed, and no selected model
forgotten. -/

namespace NodeCoordinator

/-- The model that `HandleCatalog` has claimed and not yet started. -/
def claimed (state : NodeCoordinator) : List CatalogModel :=
  match state.pass, state.passPhase with
  | model :: _, .starting => [model]
  | _, _ => []

def running (downloads : List DownloadTask) : List CatalogModel :=
  (downloads.filter fun task => task.phase ≠ .ended).map DownloadTask.model

def underway (state : NodeCoordinator) : List CatalogModel :=
  state.claimed ++ running state.downloads

end NodeCoordinator

open NodeCoordinator

/-- The model that a step's `Register` leaves out of the table. -/
def leftOut : NodeCoordinator × CoordinatorEvent → Option ModelId
  | (state, .register index file) =>
      state.downloads[index]?.bind fun task =>
        if task.model.id ∈
            (state.manager.register task.model.id file).ready then
          none
        else some task.model.id
  | _ => none

def concluded : NodeCoordinator × CoordinatorEvent →
    Option (ModelId × Option Fingerprint)
  | (state, .conclude index) =>
      state.downloads[index]?.map fun task =>
        (task.model.id,
          if task.phase = .caught then some (fingerprint task.model) else none)
  | _ => none

/-- The artifact that a model's latest download failed for. -/
def lastFailure (history : History NodeCoordinator CoordinatorEvent)
    (id : ModelId) : Option Fingerprint :=
  (((history.filterMap concluded).filter (·.1 = id)).getLast?).bind Prod.snd

def wanted : NodeCoordinator × CoordinatorEvent → Option ModelId
  | (state, .examine) =>
      match state.pass with
      | model :: _ =>
          if state.selected model ∧ model.backend = .llamaCpp then some model.id
          else none
      | [] => none
  | _ => none

variable {limitMb : ℕ} {selected : List ModelId} {id : ModelId}
variable {state after : NodeCoordinator} {event : CoordinatorEvent}
variable {history : History NodeCoordinator CoordinatorEvent}
variable {model : CatalogModel} {rest : List CatalogModel}
variable {task : DownloadTask} {index : ℕ} {phase : DownloadPhase}

theorem claimed_of_ne (other : state.passPhase ≠ .starting) :
    state.claimed = [] := by
  unfold claimed
  split
  · contradiction
  · rfl

@[simp] theorem underway_skip :
    (state.skip rest).underway = running state.downloads := by
  rw [underway, claimed_of_ne (by simp [skip])]
  rfl

theorem underway_of_ne (other : state.passPhase ≠ .starting) :
    state.underway = running state.downloads := by
  rw [underway, claimed_of_ne other, List.nil_append]

private theorem underway_examine (phase : state.passPhase = .examining) :
    (state.examine model rest).underway = state.underway := by
  have before : state.underway = running state.downloads :=
    underway_of_ne (by rw [phase]; simp)
  rw [before]
  rcases @examine_cases state model rest with same | same
  · rw [same, underway_skip]
  · rw [same]
    exact underway_of_ne (by simp)

private theorem underway_start (head : state.pass = model :: rest)
    (phase : state.passPhase = .starting) :
    (state.start model rest).underway.Perm state.underway := by
  have before : state.underway = model :: running state.downloads := by
    simp [underway, claimed, head, phase]
  have started : (state.start model rest).underway =
      running state.downloads ++ [model] := by
    rw [underway_of_ne (by simp [start, skip])]
    simp [start, skip, running]
  rw [before, started]
  exact List.perm_append_singleton _ _

theorem underway_setPhase (found : state.downloads[index]? = some task)
    (active : task.phase ≠ .ended) (goes : phase ≠ .ended) :
    (state.setPhase index task phase).underway = state.underway := by
  obtain ⟨earlier, later, whole, replaced⟩ := exists_split found
  have before : state.underway = state.claimed ++
      (running earlier ++ task.model :: running later) := by
    simp [underway, running, whole, active]
  have gone : (state.setPhase index task phase).underway = state.claimed ++
      (running earlier ++ task.model :: running later) := by
    simp [underway, claimed, setPhase, running, replaced, goes]
  rw [before, gone]

private theorem underway_ended (found : state.downloads[index]? = some task)
    (active : task.phase ≠ .ended) :
    state.underway.Perm
      (task.model :: (state.setPhase index task .ended).underway) := by
  obtain ⟨earlier, later, whole, replaced⟩ := exists_split found
  have before : state.underway = state.claimed ++
      (running earlier ++ task.model :: running later) := by
    simp [underway, running, whole, active]
  have ended : (state.setPhase index task .ended).underway = state.claimed ++
      (running earlier ++ running later) := by
    simp [underway, claimed, setPhase, running, replaced]
  rw [before, ended, ← List.append_assoc, ← List.append_assoc]
  exact List.perm_middle

structure Tracked (state : NodeCoordinator) : Prop where
  exclusive : (state.underway.map CatalogModel.id).Perm state.downloading.keys
  fresh : ∀ model ∈ state.underway,
    state.failedFingerprints.lookup model.id ≠ some (fingerprint model)

theorem Tracked.congr (tracked : Tracked state)
    (underway : after.underway.Perm state.underway)
    (downloading : after.downloading = state.downloading)
    (failed : after.failedFingerprints = state.failedFingerprints) :
    Tracked after where
  exclusive := by
    rw [downloading]
    exact (underway.map _).trans tracked.exclusive
  fresh model member := by
    rw [failed]
    exact tracked.fresh model (underway.subset member)

theorem Tracked.skip (tracked : Tracked state)
    (other : state.passPhase ≠ .starting) : Tracked (state.skip rest) := by
  refine tracked.congr ?_ rfl rfl
  rw [underway_skip, underway_of_ne other]

theorem Tracked.examine (tracked : Tracked state)
    (phase : state.passPhase = .examining) :
    Tracked (state.examine model rest) := by
  refine tracked.congr (.of_eq (underway_examine phase)) ?_ ?_
  · rcases @examine_cases state model rest with same | same
    · rw [same]
      rfl
    · rw [same]
  · rcases @examine_cases state model rest with same | same
    · rw [same]
      rfl
    · rw [same]

theorem Tracked.claim (tracked : Tracked state)
    (head : state.pass = model :: rest) (phase : state.passPhase = .claiming) :
    Tracked (state.claim model rest) := by
  have other : state.passPhase ≠ .starting := by simp [phase]
  rcases @claim_cases state model rest with same | ⟨absent, untried, same⟩
  · rw [same]
    exact tracked.skip other
  · rw [same]
    have added : NodeCoordinator.underway { state with
        downloading := state.downloading.insert model.id
        passPhase := .starting } = model :: state.underway := by
      rw [underway_of_ne other]
      simp [underway, claimed, head]
    constructor
    · have inserted : (state.downloading.insert model.id).keys =
          model.id :: state.downloading.keys :=
        List.insert_of_not_mem absent
      rw [added, inserted]
      exact tracked.exclusive.cons _
    · rw [added]
      exact List.forall_mem_cons.mpr ⟨untried, tracked.fresh⟩

theorem Tracked.ended (tracked : Tracked state)
    (found : state.downloads[index]? = some task)
    (active : task.phase ≠ .ended)
    (underway : after.underway = (state.setPhase index task .ended).underway)
    (downloading : after.downloading = state.downloading.erase task.model.id)
    (failed : ∀ id, id ≠ task.model.id →
      after.failedFingerprints.lookup id = state.failedFingerprints.lookup id) :
    Tracked after := by
  have left := underway_ended found active
  rw [← underway] at left
  have keys := (left.map CatalogModel.id).symm.trans tracked.exclusive
  rw [List.map_cons] at keys
  constructor
  · rw [downloading]
    have erased := keys.erase task.model.id
    rwa [List.erase_cons_head] at erased
  · intro model member
    have distinct := keys.nodup_iff.mpr state.downloading.nodup
    have other : model.id ≠ task.model.id := by
      intro same
      apply (List.nodup_cons.mp distinct).1
      rw [← same]
      exact List.mem_map_of_mem member
    rw [failed model.id other]
    exact tracked.fresh model (left.symm.subset (List.mem_cons_of_mem _ member))

theorem Tracked.step (tracked : Tracked state)
    (taken : CoordinatorMove state event after) : Tracked after := by
  cases taken with
  | select => exact tracked.congr (.refl _) rfl rfl
  | catalog models idle =>
      refine tracked.congr ?_ rfl rfl
      rw [underway_skip, underway]
      simp [claimed, idle]
  | examine _ phase => exact tracked.examine phase
  | claim head phase => exact tracked.claim head phase
  | start head phase =>
      exact tracked.congr (underway_start head phase) rfl rfl
  | fetch succeeds found phase =>
      have goes : (if succeeds then DownloadPhase.fetched
          else DownloadPhase.caught) ≠ .ended := by
        cases succeeds <;> simp
      exact tracked.congr
        (.of_eq (underway_setPhase found (by simp [phase]) goes)) rfl rfl
  | register file found phase =>
      exact tracked.congr
        (.of_eq (underway_setPhase found (by simp [phase]) (by simp))) rfl rfl
  | succeed found phase =>
      refine tracked.ended found (by simp [phase]) rfl rfl fun id other => ?_
      exact AList.lookup_erase_ne other
  | fail found phase =>
      refine tracked.ended found (by simp [phase]) rfl rfl fun id other => ?_
      exact AList.lookup_insert_ne other

theorem tracked (run : (coordinator limitMb selected).Run history state) :
    Tracked state := by
  induction run with
  | start => exact ⟨.refl _, fun _ member => by cases member⟩
  | next _ taken ih => exact ih.step (coordinator_move taken)

private theorem lastFailure_concat (step : NodeCoordinator × CoordinatorEvent) :
    lastFailure (history ++ [step]) id =
      match concluded step with
      | some (other, outcome) =>
          if other = id then outcome else lastFailure history id
      | none => lastFailure history id := by
  unfold lastFailure
  cases ended : concluded step with
  | none => simp [ended]
  | some conclusion =>
      obtain ⟨other, outcome⟩ := conclusion
      by_cases same : other = id
      · simp [ended, same]
      · simp [ended, same]

theorem failed_eq_lastFailure
    (run : (coordinator limitMb selected).Run history state) (id : ModelId) :
    state.failedFingerprints.lookup id = lastFailure history id := by
  induction run generalizing id with
  | start => rfl
  | @next history before after event _ taken ih =>
      rw [lastFailure_concat]
      cases coordinator_move taken with
      | succeed found phase =>
          simp only [concluded, found, Option.map_some, phase]
          split
          · next same => subst same; exact AList.lookup_erase _ _
          · next other =>
              rw [← ih id]
              exact AList.lookup_erase_ne (Ne.symm other)
      | fail found phase =>
          simp only [concluded, found, Option.map_some, phase]
          split
          · next same => subst same; exact AList.lookup_insert _
          · next other =>
              rw [← ih id]
              exact AList.lookup_insert_ne (Ne.symm other)
      | @examine model rest =>
          rcases @examine_cases before model rest with same | same
          · rw [same]; exact ih id
          · rw [same]; exact ih id
      | @claim model rest =>
          rcases @claim_cases before model rest with same | ⟨_, _, same⟩
          · rw [same]; exact ih id
          · rw [same]; exact ih id
      | _ => exact ih id

/-- A model is downloaded by one task at a time, and none downloads the
artifact that the model's latest download failed for. -/
theorem downloads_once
    (run : (coordinator limitMb selected).Run history state) :
    (state.underway.map CatalogModel.id).Nodup ∧
      ∀ model ∈ state.underway,
        lastFailure history model.id ≠ some (fingerprint model) := by
  have kept := tracked run
  refine ⟨kept.exclusive.nodup_iff.mpr state.downloading.nodup, ?_⟩
  intro model member
  rw [← failed_eq_lastFailure run]
  exact kept.fresh model member

def catalogModel (id : ModelId) (backend : Proto.Backend) : CatalogModel where
  id
  displayName := id
  downloadUrl := "https://models/" ++ id
  sha256 := id
  sizeBytes := 1
  contextLength := 1
  paramsBillions := 1
  backend

def startedEvents : List CoordinatorEvent :=
  [.catalog [catalogModel "m" .llamaCpp, catalogModel "f" .llamaCpp,
      catalogModel "v" .vllm],
    .examine, .claim, .start, .examine, .claim, .start, .examine]

theorem downloads_once_started :
    ∃ history state, (coordinator 10 []).Run history state ∧
      state.underway.length = 2 ∧
      (state.underway.map CatalogModel.id).Nodup ∧
        ∀ model ∈ state.underway,
          lastFailure history model.id ≠ some (fingerprint model) := by
  obtain ⟨history, state, run, observed⟩ :=
    (coordinator 10 []).exists_run_of_trace startedEvents
      (fun outcome => outcome.2.underway.length == 2) (by decide +kernel)
  exact ⟨history, state, run, eq_of_beq observed, downloads_once run⟩

/-- What `Register` has come to for a model: ready, or left out. -/
def Registered (history : History NodeCoordinator CoordinatorEvent)
    (state : NodeCoordinator) (id : ModelId) : Prop :=
  id ∈ state.manager.ready ∨ id ∈ history.filterMap leftOut

/-- A model is registered, being downloaded, or known to have failed. -/
def Settled (history : History NodeCoordinator CoordinatorEvent)
    (state : NodeCoordinator) (id : ModelId) : Prop :=
  Registered history state id ∨
    (state.failedFingerprints.lookup id).isSome ∨ id ∈ state.downloading

theorem Registered.of_ready
    {step : NodeCoordinator × CoordinatorEvent}
    (registered : Registered history state id)
    (ready : after.manager.ready = state.manager.ready) :
    Registered (history ++ [step]) after id := by
  rcases registered with ready' | left
  · exact .inl (ready ▸ ready')
  · exact .inr (mem_filterMap_concat left)

private theorem mem_ready_register_ne {manager : BackendManager}
    {other : ModelId}
    {file : Artifact} (apart : id ≠ other) (ready : id ∈ manager.ready) :
    id ∈ (manager.register other file).ready := by
  have erased : id ∈ manager.ready.erase other :=
    (List.mem_erase_of_ne apart).mpr ready
  have inserted : id ∈ manager.ready.insert other :=
    List.mem_insert_of_mem ready
  unfold BackendManager.register
  simp only
  split
  · split
    · exact erased
    · exact inserted
  · exact erased

theorem registered_own {file : Artifact}
    (found : state.downloads[index]? = some task)
    (ready : after.manager = state.manager.register task.model.id file) :
    Registered (history ++ [(state, .register index file)]) after
      task.model.id := by
  by_cases fits : task.model.id ∈ after.manager.ready
  · exact .inl fits
  · right
    rw [ready] at fits
    simp [leftOut, found, fits]

theorem Registered.step (registered : Registered history state id)
    (taken : CoordinatorMove state event after) :
    Registered (history ++ [(state, event)]) after id := by
  cases taken with
  | @register index task file found phase =>
      by_cases same : id = task.model.id
      · rw [same]
        exact registered_own found rfl
      · rcases registered with ready | left
        · exact .inl (mem_ready_register_ne same ready)
        · exact .inr (mem_filterMap_concat left)
  | @examine model rest =>
      refine registered.of_ready ?_
      rcases @examine_cases state model rest with same | same
      · rw [same]
        rfl
      · rw [same]
  | @claim model rest =>
      refine registered.of_ready ?_
      rcases @claim_cases state model rest with same | ⟨_, _, same⟩
      · rw [same]
        rfl
      · rw [same]
  | _ => exact registered.of_ready rfl

/-- Between `Register` and the lock a task's model is registered. -/
def RegisteredTasks (history : History NodeCoordinator CoordinatorEvent)
    (state : NodeCoordinator) : Prop :=
  ∀ task ∈ state.downloads, task.phase = .registered →
    Registered history state task.model.id

theorem mem_setPhase (found : state.downloads[index]? = some task)
    {other : DownloadTask}
    (member : other ∈ (state.setPhase index task phase).downloads) :
    other ∈ state.downloads ∨ other = { task with phase } := by
  obtain ⟨earlier, later, whole, replaced⟩ := exists_split found
  rw [setPhase, replaced] at member
  rw [whole]
  rcases List.mem_append.mp member with first | second
  · exact .inl (List.mem_append_left _ first)
  · rcases List.mem_cons.mp second with same | second
    · exact .inr same
    · exact .inl (List.mem_append_right _ (List.mem_cons_of_mem _ second))

theorem RegisteredTasks.setPhase (tasks : RegisteredTasks history state)
    (found : state.downloads[index]? = some task) (other : phase ≠ .registered)
    (taken : CoordinatorMove state event after)
    (downloads : after.downloads =
      (state.setPhase index task phase).downloads) :
    RegisteredTasks (history ++ [(state, event)]) after := by
  intro late member registered
  rw [downloads] at member
  rcases mem_setPhase found member with old | rfl
  · exact (tasks late old registered).step taken
  · exact absurd registered other

theorem RegisteredTasks.of_downloads (tasks : RegisteredTasks history state)
    (taken : CoordinatorMove state event after)
    (downloads : ∀ task ∈ after.downloads, task.phase = .registered →
      task ∈ state.downloads) :
    RegisteredTasks (history ++ [(state, event)]) after :=
  fun task member registered =>
    (tasks task (downloads task member registered) registered).step taken

theorem RegisteredTasks.step (tasks : RegisteredTasks history state)
    (taken : CoordinatorMove state event after) :
    RegisteredTasks (history ++ [(state, event)]) after := by
  have whole := taken
  cases taken with
  | fetch succeeds found phase =>
      refine tasks.setPhase found ?_ whole rfl
      cases succeeds <;> simp
  | @register index task file found phase =>
      have own : Registered (history ++ [(state, .register index file)])
          { state.setPhase index task .registered with
            manager := state.manager.register task.model.id file }
          task.model.id := registered_own found rfl
      intro late member registered
      rcases mem_setPhase found member with old | rfl
      · exact (tasks late old registered).step whole
      · exact own
  | succeed found phase => exact tasks.setPhase found (by simp) whole rfl
  | fail found phase => exact tasks.setPhase found (by simp) whole rfl
  | @start model rest head phase =>
      refine tasks.of_downloads whole fun task member registered => ?_
      rcases List.mem_append.mp member with old | new
      · exact old
      · obtain rfl := List.mem_singleton.mp new
        cases registered
  | @examine model rest =>
      refine tasks.of_downloads whole fun task member _ => ?_
      rcases @examine_cases state model rest with same | same
      · rwa [same] at member
      · rwa [same] at member
  | @claim model rest =>
      refine tasks.of_downloads whole fun task member _ => ?_
      rcases @claim_cases state model rest with same | ⟨_, _, same⟩
      · rwa [same] at member
      · rwa [same] at member
  | _ => exact tasks.of_downloads whole fun _ member _ => member

theorem Settled.of_tables (settled : Settled history state id)
    (taken : CoordinatorMove state event after)
    (failed : after.failedFingerprints.lookup id =
      state.failedFingerprints.lookup id)
    (downloading : id ∈ state.downloading → id ∈ after.downloading) :
    Settled (history ++ [(state, event)]) after id := by
  rcases settled with registered | failure | under
  · exact .inl (registered.step taken)
  · exact .inr (.inl (by rwa [failed]))
  · exact .inr (.inr (downloading under))

theorem Settled.step (settled : Settled history state id)
    (tasks : RegisteredTasks history state)
    (taken : CoordinatorMove state event after) :
    Settled (history ++ [(state, event)]) after id := by
  have whole := taken
  cases taken with
  | @succeed index task found phase =>
      by_cases same : id = task.model.id
      · rw [same]
        exact .inl ((tasks task (List.mem_of_getElem? found) phase).step whole)
      · exact settled.of_tables whole (AList.lookup_erase_ne same)
          (List.mem_erase_of_ne same).mpr
  | @fail index task found phase =>
      by_cases same : id = task.model.id
      · rw [same]
        exact .inr (.inl (by simp [fail, AList.lookup_insert]))
      · exact settled.of_tables whole (AList.lookup_insert_ne same)
          (List.mem_erase_of_ne same).mpr
  | @examine model rest =>
      rcases @examine_cases state model rest with same | same
      · rw [same] at whole ⊢
        exact settled.of_tables whole rfl fun under => under
      · rw [same] at whole ⊢
        exact settled.of_tables whole rfl fun under => under
  | @claim model rest =>
      rcases @claim_cases state model rest with same | ⟨_, _, same⟩
      · rw [same] at whole ⊢
        exact settled.of_tables whole rfl fun under => under
      · rw [same] at whole ⊢
        exact settled.of_tables whole rfl List.mem_insert_of_mem
  | _ => exact settled.of_tables whole rfl fun under => under

/-- The model that is about to be claimed. -/
def examined (state : NodeCoordinator) : List ModelId :=
  match state.pass, state.passPhase with
  | model :: _, .claiming => [model.id]
  | _, _ => []

private theorem examined_of_ne (other : state.passPhase ≠ .claiming) :
    examined state = [] := by
  unfold examined
  split
  · contradiction
  · rfl

structure Remembered (history : History NodeCoordinator CoordinatorEvent)
    (state : NodeCoordinator) : Prop where
  tasks : RegisteredTasks history state
  wanted : ∀ id ∈ history.filterMap wanted,
    Settled history state id ∨ id ∈ examined state

theorem Remembered.of_quiet (remembered : Remembered history state)
    (taken : CoordinatorMove state event after)
    (quiet : WindowsNode.wanted (state, event) = none)
    (kept : ∀ id ∈ examined state,
      Settled (history ++ [(state, event)]) after id ∨ id ∈ examined after) :
    Remembered (history ++ [(state, event)]) after where
  tasks := remembered.tasks.step taken
  wanted id member := by
    rw [List.filterMap_append, List.mem_append] at member
    rcases member with earlier | now
    · rcases remembered.wanted id earlier with settled | examined
      · exact .inl (settled.step remembered.tasks taken)
      · exact kept id examined
    · simp [quiet] at now

private theorem examine_wanted (head : state.pass = model :: rest)
    (now : id ∈ [(state, CoordinatorEvent.examine)].filterMap wanted) :
    Settled (history ++ [(state, .examine)]) (state.examine model rest) id ∨
      id ∈ examined (state.examine model rest) := by
  obtain ⟨⟨chosen, runs⟩, rfl⟩ : (state.selected model = true ∧
      model.backend = .llamaCpp) ∧ model.id = id := by
    simpa [WindowsNode.wanted, head] using now
  unfold NodeCoordinator.examine
  simp only [chosen, runs, Bool.not_true, Bool.false_eq_true, ite_false,
    ne_eq, not_true_eq_false]
  split
  case isTrue ready => exact .inl (.inl (.inl ready))
  case isFalse => exact .inr (by simp [examined, head])

theorem Remembered.examine (remembered : Remembered history state)
    (head : state.pass = model :: rest) (phase : state.passPhase = .examining) :
    Remembered (history ++ [(state, .examine)]) (state.examine model rest) where
  tasks := remembered.tasks.step (.examine head phase)
  wanted id member := by
    rw [List.filterMap_append, List.mem_append] at member
    rcases member with earlier | now
    · rcases remembered.wanted id earlier with settled | member
      · exact .inl (settled.step remembered.tasks (.examine head phase))
      · rw [examined_of_ne (by simp [phase])] at member
        cases member
    · exact examine_wanted head now

theorem Remembered.claim (remembered : Remembered history state)
    (head : state.pass = model :: rest) (phase : state.passPhase = .claiming) :
    Remembered (history ++ [(state, .claim)]) (state.claim model rest) := by
  refine remembered.of_quiet (.claim head phase) rfl fun id member => ?_
  obtain rfl : id = model.id := by simpa [examined, head, phase] using member
  left
  unfold NodeCoordinator.claim
  split
  case isTrue under => exact .inr (.inr under)
  case isFalse =>
    split
    case isTrue failed => exact .inr (.inl (by simp [skip, failed]))
    case isFalse => exact .inr (.inr List.mem_insert_self)

theorem Remembered.step (remembered : Remembered history state)
    (taken : CoordinatorMove state event after) :
    Remembered (history ++ [(state, event)]) after := by
  have whole := taken
  cases taken with
  | examine head phase => exact remembered.examine head phase
  | claim head phase => exact remembered.claim head phase
  | catalog models idle =>
      refine remembered.of_quiet whole rfl fun id member => ?_
      simp [examined, idle] at member
  | start head phase =>
      refine remembered.of_quiet whole rfl fun id member => ?_
      simp [examined, phase] at member
  | _ => exact remembered.of_quiet whole rfl fun _ member => .inr member

theorem remembered (run : (coordinator limitMb selected).Run history state) :
    Remembered history state := by
  induction run with
  | start =>
      refine ⟨fun _ member => ?_, fun _ member => ?_⟩
      · cases member
      · cases member
  | next _ taken ih => exact ih.step (coordinator_move taken)

/-- Once a pass is through and the downloads have ended, every model that was
found selected and fit to run is ready, was left out by `Register`, or has
failed last. -/
theorem none_forgotten
    (run : (coordinator limitMb selected).Run history state)
    (idle : state.pass = [])
    (ended : ∀ task ∈ state.downloads, task.phase = .ended)
    (id : ModelId) (member : id ∈ history.filterMap wanted) :
    id ∈ state.manager.ready ∨ id ∈ history.filterMap leftOut ∨
      (lastFailure history id).isSome := by
  rw [← failed_eq_lastFailure run]
  rcases (remembered run).wanted id member with settled | examined
  · rcases settled with (ready | left) | failed | under
    · exact .inl ready
    · exact .inr (.inl left)
    · exact .inr (.inr failed)
    · have none : state.underway = [] := by
        have stopped : running state.downloads = [] := by
          simpa [running, List.filter_eq_nil_iff] using ended
        simp [underway, claimed, idle, stopped]
      have empty := (tracked run).exclusive
      rw [none] at empty
      exact absurd (empty.symm.subset under) List.not_mem_nil
  · simp [WindowsNode.examined, idle] at examined

private def endedEvents : List CoordinatorEvent :=
  startedEvents ++
    [.fetch 0 true, .fetch 1 false, .register 0 (some (some 5)), .conclude 1,
      .catalog [catalogModel "f" .llamaCpp], .examine, .claim, .conclude 0]

theorem none_forgotten_ended :
    ∃ history state, (coordinator 10 []).Run history state ∧
      "f" ∈ history.filterMap wanted ∧
      ("f" ∈ state.manager.ready ∨ "f" ∈ history.filterMap leftOut ∨
        (lastFailure history "f").isSome) := by
  obtain ⟨history, state, run, observed⟩ :=
    (coordinator 10 []).exists_run_of_trace endedEvents
      (fun outcome => outcome.2.pass.isEmpty &&
        outcome.2.downloads.all (fun task => task.phase == .ended) &&
        (outcome.1.filterMap wanted).contains "f") (by decide +kernel)
  simp only [Bool.and_eq_true, List.all_eq_true, beq_iff_eq,
    List.isEmpty_iff, List.contains_iff_mem] at observed
  obtain ⟨⟨idle, ended⟩, member⟩ := observed
  exact ⟨history, state, run, member,
    none_forgotten run idle ended "f" member⟩

end JwSwarm.WindowsNode
