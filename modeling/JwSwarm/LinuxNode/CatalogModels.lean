import JwSwarm.LinuxNode.Node
import JwSwarm.LinuxNode.ServedArtifact

namespace JwSwarm.LinuxNode

open Data Proto Transition FleetManager Machine

/-! The models that the node advertises against the catalog it last received.
The run loop and its download tasks work on the model directories here. -/

variable {app : AppState} {tunnel : TunnelId} {config : Config} {host : Host}
variable {awake : Bool} {peer : Peer} {libraries : Libraries}

structure StoredState where
  run : RunState
  disk : AList fun _ : ModelId => ModelDirectory

/-- A directory that does not exist holds no file. -/
def StoredState.directory (state : StoredState) (id : ModelId) :
    ModelDirectory :=
  (state.disk.lookup id).getD .empty

/-- `listing` is the order in which the task finds its directory listed. -/
inductive StoredEvent where
  | run (event : RunEvent)
  | download (task : ℕ) (reads : Bool) (fetch : Fetch)
  | advance (task : ℕ) (listing : List String)

def artifactSizeMb (dir : Directory) (listing : List String) : Option ℕ := do
  let name ← modelFile dir listing
  fileSizeMb (dir.find name)

def stepStored (app : AppState) (tunnel : TunnelId) (config : Config)
    (host : Host) (libraries : Libraries) (state : StoredState) :
    StoredEvent → Option StoredState
  | .run (.download _ _) => none
  | .run (.advance _ _) => none
  | .run event =>
      (step app tunnel config host state.run event).map fun run =>
        { state with run }
  | .download task reads fetch => do
      let download ← state.run.downloads[task]?
      let id := download.model.id
      let left := downloadModel libraries download.model (state.directory id)
        reads fetch
      let run ← step app tunnel config host state.run (.download task left.2)
      some { run, disk := state.disk.insert id left.1 }
  | .advance task listing => do
      let download ← state.run.downloads[task]?
      let dir := (state.directory download.model.id).entries
      if listing.isPerm dir.keys then
        (step app tunnel config host state.run
          (.advance task (artifactSizeMb dir listing))).map fun run =>
            { state with run }
      else none

/-- `disk` is what earlier processes have left. -/
def storedNode (app : AppState) (tunnel : TunnelId) (config : Config)
    (host : Host) (libraries : Libraries) (awake : Bool) (peer : Peer)
    (disk : AList fun _ : ModelId => ModelDirectory) :
    Machine StoredState StoredEvent where
  init := { run := (node app tunnel config host awake peer).init, disk }
  step := stepStored app tunnel config host libraries

/-- The catalog that the node received last, and whether the run loop is in the
branch that handles it. -/
structure Branch where
  catalog : List CatalogModel := []
  handling : Bool := false

def Branch.turn (branch : Branch) : StoredEvent → Branch
  | .run (.catalogResponse models) => { catalog := models, handling := true }
  | .run (.heartbeatTick _ _) => { branch with handling := false }
  | .run .repollTick => { branch with handling := false }
  | .run (.connectedChanged _) => { branch with handling := false }
  | _ => branch

def branch (history : History StoredState StoredEvent) : Branch :=
  history.foldl (fun branch taken => branch.turn taken.2) {}

def Selected (config : Config) (id : ModelId) : Prop :=
  config.selectedModels = [] ∨ id ∈ config.selectedModels

/-- The catalog has the model, the owner has selected it, and its artifact is
verified against the entry. -/
def Offered (libraries : Libraries) (config : Config)
    (catalog : List CatalogModel) (state : StoredState) (id : ModelId) : Prop :=
  Selected config id ∧ ∃ entry ∈ catalog, entry.id = id ∧
    HoldsVerified libraries (state.directory id).entries entry.sha256

/-- What the run loop reports at the end of handling a catalog is offered by
that catalog. -/
def Advertises (libraries : Libraries) (config : Config)
    (history : History StoredState StoredEvent) (state : StoredState) :
    StoredEvent → Prop
  | .run .loop => ∀ status rest,
      state.run.todo = .send (.modelStatus status) :: rest →
      (branch history).handling = true → ∀ id ∈ status.readyModels,
        Offered libraries config (branch history).catalog state id
  | _ => True

def sameArtifact (entry : CatalogModel) (other : CatalogModel) : Bool :=
  entry.id == other.id && entry.sha256.toLower == other.sha256.toLower

def Download.waits (download : Download) : Bool :=
  match download.phase with
  | .downloaded => true
  | .untracked => true
  | .forgiven => true
  | _ => false

def LoopOp.lists (id : ModelId) : LoopOp → Bool
  | .send (.modelStatus status) => status.readyModels.contains id
  | _ => false

/-- The model is ready, or about to be, or in a report that is under way. -/
def relies (state : RunState) (id : ModelId) : Bool :=
  decide (id ∈ state.ready) || state.todo.any (LoopOp.lists id) ||
    state.downloads.any fun download =>
      download.waits && download.model.id == id

/-- A new catalog keeps the entries of the ready models. A download finds a
marker that tells the truth, or writes where nothing relies on the directory and
no unverified file is preferred to its own. A task registers a model that the
catalog still has. -/
def keepsOffers (libraries : Libraries)
    (history : History StoredState StoredEvent) (state : StoredState) :
    StoredEvent → Bool
  | .run (.catalogResponse models) =>
      (branch history).catalog.all fun entry =>
        !decide (entry.id ∈ state.run.ready) || models.any (sameArtifact entry)
  | .download task reads fetch =>
      match state.run.downloads[task]? with
      | some download =>
          let model := download.model
          let dir := state.directory model.id
          decide (ServesVerified libraries model dir reads fetch) &&
            ((reads && alreadyVerified dir.entries model) ||
              !relies state.run model.id)
      | none => true
  | .advance task _ =>
      match state.run.downloads[task]? with
      | some { model, phase := .forgiven } =>
          (branch history).catalog.any (sameArtifact model)
      | _ => true
  | _ => true

/-- What the node has ready, has reported or is about to register is verified;
`catalog` is the one that it received last. -/
structure Current (libraries : Libraries) (config : Config)
    (catalog : List CatalogModel) (state : StoredState) : Prop where
  ready : ∀ id ∈ state.run.ready, Offered libraries config catalog state id
  listed : ∀ op ∈ state.run.todo, ∀ id, op.lists id = true →
    Offered libraries config catalog state id
  claimed : ∀ model, .claim model ∈ state.run.todo → Selected config model.id
  started : ∀ download ∈ state.run.downloads,
    Selected config download.model.id
  waiting : ∀ download ∈ state.run.downloads, download.waits = true →
    HoldsVerified libraries (state.directory download.model.id).entries
      download.model.sha256

variable {history : History StoredState StoredEvent}
variable {before after final state : StoredState} {event : StoredEvent}
variable {catalog models : List CatalogModel} {id : ModelId}

private theorem branch_concat : branch (history ++ [(state, event)]) =
    (branch history).turn event := by
  rw [branch, branch, List.foldl_append]
  rfl

theorem HoldsVerified.of_same {dir : Directory} {sha256 other : String}
    (verified : HoldsVerified libraries dir sha256)
    (same : sha256.toLower = other.toLower) :
    HoldsVerified libraries dir other := by
  intro listing perm
  obtain ⟨name, content, chosen, found, digest⟩ := verified listing perm
  exact ⟨name, content, chosen, found, digest.trans same⟩

private theorem Offered.of_kept
    (offered : Offered libraries config catalog state id)
    (kept : ∀ entry ∈ catalog, entry.id = id →
      models.any (sameArtifact entry) = true) :
    Offered libraries config models state id := by
  obtain ⟨selected, entry, member, named, verified⟩ := offered
  obtain ⟨other, inside, same⟩ := List.any_eq_true.mp (kept entry member named)
  obtain ⟨sameId, sameDigest⟩ := (Bool.and_eq_true _ _).mp same
  exact ⟨selected, other, inside, (eq_of_beq sameId).symm.trans named,
    verified.of_same (eq_of_beq sameDigest)⟩

theorem Offered.of_directory
    (offered : Offered libraries config catalog before id)
    (same : after.directory id = before.directory id) :
    Offered libraries config catalog after id := by
  unfold Offered
  rw [same]
  exact offered

def LoopOp.plain : LoopOp → Bool
  | .send (.modelStatus _) => false
  | .claim _ => false
  | _ => true

theorem LoopOp.not_lists {op : LoopOp} (plain : op.plain = true) :
    op.lists id = false := by
  cases op with
  | send msg => cases msg <;> first | rfl | cases plain
  | _ => rfl

theorem Current.quiet {run : RunState}
    (current : Current libraries config catalog before)
    (ready : run.ready = before.run.ready)
    (downloads : run.downloads = before.run.downloads)
    (todo : ∀ op ∈ run.todo, op.plain = true ∨ op ∈ before.run.todo) :
    Current libraries config catalog { before with run } where
  ready := by
    simp only [ready]
    exact current.ready
  listed := by
    intro op member id lists
    rcases todo op member with plain | earlier
    · rw [LoopOp.not_lists plain] at lists
      cases lists
    · exact current.listed op earlier id lists
  claimed := by
    intro model member
    rcases todo _ member with plain | earlier
    · cases plain
    · exact current.claimed model earlier
  started := by
    simp only [downloads]
    exact current.started
  waiting := by
    simp only [downloads]
    exact current.waiting

theorem Current.wake {run woken : RunState}
    (current : Current libraries config catalog before)
    (taken : LinuxNode.wake before.run woken = some run)
    (ready : woken.ready = before.run.ready)
    (downloads : woken.downloads = before.run.downloads)
    (todo : ∀ op ∈ woken.todo, op.plain = true) :
    Current libraries config catalog { before with run } := by
  obtain ⟨-, rfl⟩ := wake_eq_some.mp taken
  exact current.quiet ready downloads fun op member => .inl (todo op member)

theorem Current.catalogResponse {run : RunState}
    (current : Current libraries config catalog before)
    (kept : catalog.all (fun entry => !decide (entry.id ∈ before.run.ready) ||
      models.any (sameArtifact entry)) = true)
    (taken : LinuxNode.wake before.run { before.run with
      todo := models.map .consider ++ [.report] } = some run) :
    Current libraries config models { before with run } := by
  obtain ⟨-, rfl⟩ := wake_eq_some.mp taken
  have plain : ∀ op ∈ models.map LoopOp.consider ++ [.report],
      op.plain = true := by
    intro op member
    rcases List.mem_append.mp member with considered | reported
    · obtain ⟨model, -, rfl⟩ := List.mem_map.mp considered
      rfl
    · obtain rfl := List.mem_singleton.mp reported
      rfl
  refine ⟨fun id ready => ?_, fun op member id lists => ?_,
    fun model member => ?_, current.started, current.waiting⟩
  · apply Offered.of_kept (current.ready id ready)
    rintro entry member rfl
    have kept := List.all_eq_true.mp kept entry member
    rwa [decide_eq_true ready, Bool.not_true, Bool.false_or] at kept
  · rw [LoopOp.not_lists (plain op member)] at lists
    cases lists
  · cases plain _ member

private theorem mem_sorted {ready : KeySet ModelId} :
    id ∈ ready.sorted ↔ id ∈ ready :=
  List.mem_insertionSort _

theorem Current.loop {rest : List LoopOp} {op : LoopOp}
    (current : Current libraries config catalog before)
    (todo : before.run.todo = op :: rest) {run : RunState}
    (looped : LoopStep config before.run rest op run) :
    Current libraries config catalog { before with run } := by
  have later : ∀ op ∈ rest, op ∈ before.run.todo := by
    intro op member
    rw [todo]
    exact List.mem_cons_of_mem _ member
  have dropped : Current libraries config catalog
      { before with run := { before.run with todo := rest } } :=
    current.quiet rfl rfl fun op member => .inr (later op member)
  cases looped with
  | sent =>
      exact current.quiet rfl rfl fun op member => .inr (later op member)
  | considered selected _ _ =>
      refine ⟨current.ready, fun op member id lists => ?_,
        fun other member => ?_, current.started, current.waiting⟩
      · rcases List.mem_cons.mp member with rfl | member
        · cases lists
        · exact current.listed op (later op member) id lists
      · rcases List.mem_cons.mp member with same | member
        · obtain rfl := LoopOp.claim.inj same
          exact selected
        · exact current.claimed other (later _ member)
  | passed _ | refused _ => exact dropped
  | claimed _ _ =>
      refine ⟨current.ready, dropped.listed, dropped.claimed,
        fun download member => ?_, fun download member waits => ?_⟩
      · rcases List.mem_append.mp member with member | member
        · exact current.started download member
        · obtain rfl := List.mem_singleton.mp member
          apply current.claimed
          rw [todo]
          exact List.mem_cons_self
      · rcases List.mem_append.mp member with member | member
        · exact current.waiting download member waits
        · obtain rfl := List.mem_singleton.mp member
          cases waits
  | reported =>
      refine ⟨current.ready, fun op member id lists => ?_,
        fun other member => ?_, current.started, current.waiting⟩
      · rcases List.mem_cons.mp member with rfl | member
        · have member : id ∈ before.run.ready.sorted := by
            simpa [LoopOp.lists] using lists
          exact current.ready id (mem_sorted.mp member)
        · exact current.listed op (later op member) id lists
      · rcases List.mem_cons.mp member with same | member
        · cases same
        · exact current.claimed other (later _ member)

section Tasks

variable {run ran : RunState} {task : ℕ} {download : Download}

private theorem stepDownload_cases {succeeds : Bool}
    (found : run.downloads[task]? = some download)
    (taken : stepDownload run task succeeds = some ran) :
    ran.ready = run.ready ∧ ran.todo = run.todo ∧ ∃ phase,
      ran.downloads = run.downloads.set task { download with phase } ∧
      (Download.waits { download with phase } = true → succeeds = true) := by
  obtain ⟨other, same, ends⟩ := stepDownload_ends taken
  obtain rfl := Option.some.inj (found.symm.trans same)
  cases ends with
  | succeeded phase => exact ⟨rfl, rfl, .downloaded, rfl, fun _ => rfl⟩
  | failed phase =>
      exact ⟨rfl, rfl, .finished, rfl, fun waits => by cases waits⟩

private theorem stepAdvance_cases {sizeMb : Option ℕ}
    (found : run.downloads[task]? = some download)
    (taken : stepAdvance config run task sizeMb = some ran) :
    ran.todo = run.todo ∧ (∃ phase,
      ran.downloads = run.downloads.set task { download with phase } ∧
      (Download.waits { download with phase } = true →
        download.waits = true)) ∧
      (ran.ready = run.ready ∨ download.phase = .forgiven ∧
        ran.ready = registerReady run.ready
          config.limits.memoryLimitMb.toNat download.model.id sizeMb) := by
  obtain ⟨other, same, advances⟩ := stepAdvance_advances taken
  obtain rfl := Option.some.inj (found.symm.trans same)
  cases advances with
  | untracked phase =>
      exact ⟨rfl, ⟨_, rfl, fun _ => by rw [Download.waits, phase]⟩, .inl rfl⟩
  | forgiven phase =>
      exact ⟨rfl, ⟨_, rfl, fun _ => by rw [Download.waits, phase]⟩, .inl rfl⟩
  | registered phase =>
      exact ⟨rfl, ⟨_, rfl, fun waits => by cases waits⟩, .inr ⟨phase, rfl⟩⟩
  | reporting phase =>
      exact ⟨rfl, ⟨_, rfl, fun waits => by cases waits⟩, .inl rfl⟩
  | finished phase =>
      exact ⟨rfl, ⟨_, rfl, fun waits => by cases waits⟩, .inl rfl⟩

private theorem mem_registerReady {ready : KeySet ModelId} {limitMb : ℕ}
    {key : ModelId} {sizeMb : Option ℕ}
    (member : id ∈ registerReady ready limitMb key sizeMb) :
    id ∈ ready ∨ id = key := by
  unfold registerReady at member
  split at member
  · split at member
    · exact .inl (List.mem_of_mem_erase member)
    · exact (List.mem_insert_iff.mp member).symm
  · exact .inl (List.mem_of_mem_erase member)

theorem Current.advanced {sizeMb : Option ℕ}
    (current : Current libraries config catalog before)
    (found : before.run.downloads[task]? = some download)
    (taken : stepAdvance config before.run task sizeMb = some ran)
    (listed : download.phase = .forgiven →
      catalog.any (sameArtifact download.model) = true) :
    Current libraries config catalog { before with run := ran } := by
  have member := List.mem_of_getElem? found
  obtain ⟨todo, ⟨phase, downloads, waited⟩, ready⟩ :=
    stepAdvance_cases found taken
  refine ⟨fun id ready' => ?_, ?_, ?_, fun other inside => ?_,
    fun other inside waits => ?_⟩
  · rcases ready with same | ⟨forgiven, registered⟩
    · exact current.ready id (same ▸ ready')
    · rcases mem_registerReady (registered ▸ ready') with earlier | rfl
      · exact current.ready id earlier
      · obtain ⟨entry, inside, same⟩ := List.any_eq_true.mp (listed forgiven)
        obtain ⟨sameId, sameDigest⟩ := (Bool.and_eq_true _ _).mp same
        have verified := current.waiting download member
          (by rw [Download.waits, forgiven])
        exact ⟨current.started download member, entry, inside,
          (eq_of_beq sameId).symm, verified.of_same (eq_of_beq sameDigest)⟩
  · simp only [todo]
    exact current.listed
  · simp only [todo]
    exact current.claimed
  · rw [downloads] at inside
    rcases List.mem_or_eq_of_mem_set inside with inside | rfl
    · exact current.started other inside
    · exact current.started download member
  · rw [downloads] at inside
    rcases List.mem_or_eq_of_mem_set inside with inside | rfl
    · exact current.waiting other inside waits
    · exact current.waiting download member (waited waits)

private theorem relies_of_ready (ready : id ∈ run.ready) :
    relies run id = true := by
  simp [relies, ready]

private theorem relies_of_lists {op : LoopOp} (member : op ∈ run.todo)
    (lists : op.lists id = true) : relies run id = true := by
  have any : run.todo.any (LoopOp.lists id) = true :=
    List.any_eq_true.mpr ⟨op, member, lists⟩
  simp [relies, any]

private theorem relies_of_waits (member : download ∈ run.downloads)
    (waits : download.waits = true) : relies run download.model.id = true := by
  have any : run.downloads.any (fun other =>
      other.waits && other.model.id == download.model.id) = true :=
    List.any_eq_true.mpr ⟨download, member, by simp [waits]⟩
  simp [relies, any]

theorem Current.downloaded {succeeds : Bool}
    (current : Current libraries config catalog before)
    (found : before.run.downloads[task]? = some download)
    (taken : stepDownload before.run task succeeds = some after.run)
    (same : ∀ id, relies before.run id = true →
      after.directory id = before.directory id)
    (verified : succeeds = true →
      HoldsVerified libraries (after.directory download.model.id).entries
        download.model.sha256) :
    Current libraries config catalog after := by
  have member := List.mem_of_getElem? found
  obtain ⟨ready, todo, phase, downloads, waited⟩ :=
    stepDownload_cases found taken
  refine ⟨fun id ready' => ?_, fun op inside id lists => ?_,
    fun model inside => ?_, fun other inside => ?_,
    fun other inside waits => ?_⟩
  · rw [ready] at ready'
    exact (current.ready id ready').of_directory
      (same id (relies_of_ready ready'))
  · rw [todo] at inside
    exact (current.listed op inside id lists).of_directory
      (same id (relies_of_lists inside lists))
  · rw [todo] at inside
    exact current.claimed model inside
  · rw [downloads] at inside
    rcases List.mem_or_eq_of_mem_set inside with inside | rfl
    · exact current.started other inside
    · exact current.started download member
  · rw [downloads] at inside
    rcases List.mem_or_eq_of_mem_set inside with inside | rfl
    · rw [same _ (relies_of_waits inside waits)]
      exact current.waiting other inside waits
    · exact verified (waited waits)

theorem directory_insert {dir : ModelDirectory} {key : ModelId} :
    StoredState.directory { run, disk := before.disk.insert key dir } id =
      if id = key then dir else before.directory id := by
  unfold StoredState.directory
  split
  · next same =>
      subst same
      rw [AList.lookup_insert]
      rfl
  · next other => rw [AList.lookup_insert_ne other]

theorem Current.fetched {reads : Bool} {fetch : Fetch}
    (current : Current libraries config catalog before)
    (found : before.run.downloads[task]? = some download)
    (taken : stepDownload before.run task
      (downloadModel libraries download.model
        (before.directory download.model.id) reads fetch).2 = some ran)
    (kept : keepsOffers libraries history before
      (.download task reads fetch) = true) :
    Current libraries config catalog {
      run := ran
      disk := before.disk.insert download.model.id
        (downloadModel libraries download.model
          (before.directory download.model.id) reads fetch).1 } := by
  simp only [keepsOffers, found] at kept
  obtain ⟨serves, apart⟩ := (Bool.and_eq_true _ _).mp kept
  refine current.downloaded found taken (fun id relied => ?_)
    fun succeeds => ?_
  · rw [directory_insert]
    split
    · next same =>
        subst same
        rw [relied, Bool.not_true, Bool.or_false] at apart
        simp [downloadModel, apart]
    · rfl
  · rw [directory_insert, if_pos rfl]
    exact .of_isVerified
      ((isVerified_downloadModel_iff succeeds).mpr (of_decide_eq_true serves))

end Tasks

theorem stepStored_run {event : RunEvent}
    (taken : stepStored app tunnel config host libraries before (.run event) =
      some after) :
    ∃ run, step app tunnel config host before.run event = some run ∧
      { before with run } = after := by
  cases event with
  | download task succeeds => cases taken
  | advance task sizeMb => cases taken
  | _ => exact Option.map_eq_some_iff.mp taken

private theorem current_step
    (current : Current libraries config (branch history).catalog before)
    (kept : keepsOffers libraries history before event = true)
    (taken : stepStored app tunnel config host libraries before event =
      some after) :
    Current libraries config ((branch history).turn event).catalog after := by
  cases event with
  | run event =>
      cases event with
      | download task succeeds => cases taken
      | advance task sizeMb => cases taken
      | heartbeatTick awakeNow metrics =>
          obtain ⟨run, ran, rfl⟩ := stepStored_run taken
          refine current.wake ran rfl rfl fun op member => ?_
          simp only at member
          split at member
          · obtain rfl := List.mem_singleton.mp member
            rfl
          · rcases List.mem_cons.mp member with rfl | member
            · rfl
            · obtain rfl := List.mem_singleton.mp member
              rfl
      | repollTick =>
          obtain ⟨run, ran, rfl⟩ := stepStored_run taken
          refine current.wake ran rfl rfl fun op member => ?_
          simp only at member
          split at member
          · obtain rfl := List.mem_singleton.mp member
            rfl
          · cases member
      | connectedChanged metrics =>
          obtain ⟨run, ran, rfl⟩ := stepStored_run taken
          refine current.wake ran rfl rfl fun op member => ?_
          simp only at member
          split at member
          · simp only [List.mem_cons, List.not_mem_nil, or_false] at member
            rcases member with rfl | rfl | rfl | rfl <;> rfl
          · cases member
      | catalogResponse models =>
          obtain ⟨run, ran, rfl⟩ := stepStored_run taken
          exact current.catalogResponse kept ran
      | loop =>
          obtain ⟨run, ran, rfl⟩ := stepStored_run taken
          obtain ⟨op, rest, todo, looped⟩ := step_loop ran
          exact current.loop todo looped
      | connection connected =>
          obtain ⟨run, ran, rfl⟩ := stepStored_run taken
          obtain rfl := Option.some.inj ran
          exact current.quiet rfl rfl fun _ => .inr
      | stream event =>
          obtain ⟨run, ran, rfl⟩ := stepStored_run taken
          obtain rfl := Option.some.inj ran
          exact current.quiet rfl rfl fun _ => .inr
      | process now =>
          obtain ⟨run, ran, rfl⟩ := stepStored_run taken
          obtain ⟨_, _, -, rfl⟩ := step_process ran
          exact current.quiet rfl rfl fun _ => .inr
  | download task reads fetch =>
      simp only [stepStored, Option.bind_eq_bind, Option.bind_eq_some_iff]
        at taken
      obtain ⟨download, found, run, ran, taken⟩ := taken
      obtain rfl := Option.some.inj taken
      exact current.fetched found ran kept
  | advance task listing =>
      simp only [stepStored, Option.bind_eq_bind, Option.bind_eq_some_iff]
        at taken
      obtain ⟨download, found, taken⟩ := taken
      split at taken
      · obtain ⟨run, ran, rfl⟩ := Option.map_eq_some_iff.mp taken
        refine current.advanced found ran fun forgiven => ?_
        cases download with
        | mk model phase =>
            obtain rfl : phase = .forgiven := forgiven
            simpa only [keepsOffers, found] using kept
      · cases taken

private theorem current_run {disk : AList fun _ : ModelId => ModelDirectory}
    (run : (storedNode app tunnel config host libraries awake peer disk).Run
      history final)
    (kept : Guarded (fun earlier state event =>
      keepsOffers libraries earlier state event = true) history) :
    Current libraries config (branch history).catalog final := by
  apply Run.guarded_invariant _ _ run kept
  · exact {
      ready := fun _ ready => absurd ready List.not_mem_nil
      listed := fun _ member => absurd member List.not_mem_nil
      claimed := fun _ member => absurd member List.not_mem_nil
      started := fun _ member => absurd member List.not_mem_nil
      waiting := fun _ member => absurd member List.not_mem_nil }
  · intro past before event after _ current kept taken
    rw [branch_concat]
    exact current_step current kept taken

theorem Current.advertises
    (current : Current libraries config (branch history).catalog state) :
    Advertises libraries config history state event := by
  unfold Advertises
  split
  · intro status rest todo _ id listed
    apply current.listed (.send (.modelStatus status)) _ id
    · exact List.contains_iff_mem.mpr listed
    · rw [todo]
      exact List.mem_cons_self
  · trivial

/-- Every report of a run lists models that the current catalog offers, when
catalogs and downloads keep what is offered. -/
theorem advertises_along {disk : AList fun _ : ModelId => ModelDirectory}
    (run : (storedNode app tunnel config host libraries awake peer disk).Run
      history final)
    (kept : Guarded (fun earlier state event =>
      keepsOffers libraries earlier state event = true) history) :
    Guarded (Advertises libraries config) history := by
  intro earlier state event inside
  have before : earlier <+: history := (List.prefix_append _ _).trans inside
  exact (current_run (run.of_prefix inside) (kept.of_prefix before)).advertises

def storedLibraries : Libraries where
  digest := fun content => "d" ++ content
  lastSegment := fun _ => some "model.gguf"

private def storedModel (sha256 : String) : CatalogModel where
  id := "m"
  displayName := "m"
  downloadUrl := "https://models.example/model.gguf"
  sha256
  sizeBytes := 1000000000
  contextLength := 4096
  paramsBillions := 1
  backend := .llamaCpp

def storedConfig : Config where
  nodeId := "node"
  hostname := "host"
  limits := { gpuPowerPct := 100, memoryLimitMb := 24576 }
  selectedModels := []

def storedExample : Machine StoredState StoredEvent :=
  storedNode bareApp 0 storedConfig { vendor := .nvidia, gpuName := "gpu" }
    storedLibraries true {} ∅

private def storedListing : List String :=
  ["sha256", "weights.bin", "model.gguf"]

private def storedEvents : List StoredEvent :=
  [.run (.catalogResponse [storedModel "dw"]), .run .loop,
    .run .loop, .run .loop, .run .loop,
    .download 0 true (.complete "w" (.linked .artifact)), .advance 0 storedListing,
    .advance 0 storedListing, .advance 0 storedListing]

def reportsNow (history : History StoredState StoredEvent)
    (state : StoredState) : Option (List ModelId) :=
  match (branch history).handling, state.run.todo with
  | true, .send (.modelStatus status) :: _ => some status.readyModels
  | _, _ => none

theorem Advertises.offered {ready : List ModelId}
    (advertises : Advertises libraries config history state (.run .loop))
    (reports : reportsNow history state = some ready) :
    ∀ id ∈ ready,
      Offered libraries config (branch history).catalog state id := by
  unfold reportsNow at reports
  split at reports
  · next status rest handling todo =>
      obtain rfl := Option.some.inj reports
      exact advertises status rest todo handling
  · cases reports

theorem advertises_along_unchanged :
    ∃ history before after, storedExample.Run (history ++
        [(before, .run .loop)]) after ∧
      reportsNow history before = some ["m"] ∧
      Guarded (Advertises storedLibraries storedConfig)
        (history ++ [(before, .run .loop)]) := by
  obtain ⟨history, before, run, observed⟩ :=
    storedExample.exists_run_of_trace
      (storedEvents ++
        [.run (.catalogResponse [storedModel "dw"]),
          .run .loop, .run .loop])
      (fun outcome =>
        (storedExample.step outcome.2 (.run .loop)).isSome ∧
        reportsNow outcome.1 outcome.2 = some ["m"] ∧
        admits (keepsOffers storedLibraries) [] outcome.1 = true)
      (by decide +kernel)
  obtain ⟨enabled, reports, admitted⟩ := of_decide_eq_true observed
  obtain ⟨after, taken⟩ := Option.isSome_iff_exists.mp enabled
  refine ⟨history, before, after, run.next taken, reports,
    advertises_along (run.next taken)
      (guarded_concat.mpr ⟨guarded_of_admits admitted, rfl⟩)⟩

/-- The second catalog has other weights under the same name; the node skips
the entry, for the model is ready, and reports the model. -/
theorem changed_entry_stays_advertised :
    ∃ history before after, storedExample.Run (history ++
        [(before, .run .loop)]) after ∧
      reportsNow history before = some ["m"] ∧
      ¬ Guarded (Advertises storedLibraries storedConfig)
        (history ++ [(before, .run .loop)]) := by
  obtain ⟨history, before, run, observed⟩ :=
    storedExample.exists_run_of_trace
      (storedEvents ++
        [.run (.catalogResponse [storedModel "dx"]),
          .run .loop, .run .loop])
      (fun outcome =>
        (storedExample.step outcome.2 (.run .loop)).isSome ∧
        reportsNow outcome.1 outcome.2 = some ["m"] ∧
        (branch outcome.1).catalog = [storedModel "dx"] ∧
        modelFile (outcome.2.directory "m").entries (outcome.2.directory "m").entries.keys =
          some "model.gguf" ∧
        (outcome.2.directory "m").entries.read "model.gguf" = some "w")
      (by decide +kernel)
  obtain ⟨enabled, reports, catalog, artifact, content⟩ :=
    of_decide_eq_true observed
  obtain ⟨after, taken⟩ := Option.isSome_iff_exists.mp enabled
  refine ⟨history, before, after, run.next taken, reports,
    fun guarded => ?_⟩
  obtain ⟨-, entry, member, -, verified⟩ :=
    (guarded_concat.mp guarded).2.offered reports "m" List.mem_cons_self
  rw [catalog] at member
  obtain rfl := List.mem_singleton.mp member
  obtain ⟨name, held, chosen, found, digest⟩ := verified _ (List.Perm.refl _)
  obtain rfl := Option.some.inj (artifact.symm.trans chosen)
  obtain rfl := Option.some.inj (content.symm.trans found)
  exact absurd digest (by decide +kernel)

end JwSwarm.LinuxNode
