import JwSwarm.Data.ListSet
import JwSwarm.LinuxNode.Node

namespace JwSwarm.LinuxNode

open Data Proto Transition FleetManager Machine

/-! The node and the Fleet Manager agree on the ready models, as long as no
report overtakes a newer one. -/

variable {app : AppState} {tunnel : TunnelId} {config : Config} {host : Host}
variable {awake : Bool} {peer : Peer}
variable {history : History RunState RunEvent}
variable {before after final state : RunState} {event : RunEvent}

def LoopOp.reports : LoopOp → Bool
  | .report => true
  | .send (.modelStatus _) => true
  | _ => false

def Download.reports (download : Download) : Bool :=
  match download.phase with
  | .registered => true
  | .reporting _ => true
  | _ => false

def outstanding (state : RunState) : ℕ :=
  state.todo.countP LoopOp.reports + state.downloads.countP Download.reports

/-- The ready models that the step puts into a report on the queue. -/
def reportSent (state : RunState) : RunEvent → Option (List ModelId)
  | .loop =>
      match state.todo with
      | .send (.modelStatus status) :: _ => some status.readyModels
      | _ => none
  | .advance task _ =>
      match state.downloads[task]?.map Download.phase with
      | some (.reporting ready) => some ready
      | _ => none
  | _ => none

/-- A report is current when it is sent, or is not the last one outstanding. -/
def reportsFresh (state : RunState) (event : RunEvent) : Bool :=
  match reportSent state event with
  | some ready => ready == state.ready.sorted || decide (1 < outstanding state)
  | none => true

/-- No task runs and every queued message has been processed. -/
def isSettled (state : RunState) : Bool :=
  state.todo.isEmpty && state.queue.isEmpty &&
    state.downloads.all fun download => download.phase == .finished

def Agrees (config : Config) (state : RunState) : Prop :=
  isSettled state = true →
    state.peer.readyModels config.nodeId = some state.ready.sorted

abbrev outlook (config : Config) (state : RunState) : Option (List ModelId) :=
  FleetManager.outlook config.nodeId state.peer state.queue

/-- A `Register` that the run loop is about to queue is followed by a report. -/
def promised : List LoopOp → Bool
  | [] => true
  | .send (.register _) :: rest => rest.any LoopOp.reports && promised rest
  | _ :: rest => promised rest

structure Reporting (config : Config) (state : RunState) : Prop where
  known : (outlook config state).isSome = true
  promises : promised state.todo = true
  own : ∀ status, .send (.modelStatus status) ∈ state.todo →
    status.nodeId = config.nodeId
  current : outlook config state = some state.ready.sorted ∨
    0 < outstanding state

theorem promised_tail {op : LoopOp} {rest : List LoopOp}
    (whole : promised (op :: rest) = true) : promised rest = true := by
  unfold promised at whole
  split at whole
  · next same => cases same
  · next same =>
      obtain ⟨-, rfl⟩ := List.cons.inj same
      exact ((Bool.and_eq_true _ _).mp whole).2
  · next same =>
      obtain ⟨-, rfl⟩ := List.cons.inj same
      exact whole

private theorem promised_considered (models : List CatalogModel) :
    promised (models.map .consider ++ [.report]) = true := by
  induction models with
  | nil => rfl
  | cons model models ih => exact ih

theorem Reporting.quiet (reporting : Reporting config before)
    (outlookSame : outlook config after = outlook config before)
    (readySame : after.ready = before.ready)
    (promises : promised after.todo = true)
    (own : ∀ status, .send (.modelStatus status) ∈ after.todo →
      status.nodeId = config.nodeId)
    (kept : outstanding before ≤ outstanding after) :
    Reporting config after := by
  refine ⟨by rw [outlookSame]; exact reporting.known, promises, own, ?_⟩
  rw [outlookSame, readySame]
  rcases reporting.current with current | waiting
  · exact .inl current
  · exact .inr (by omega)

theorem Reporting.wake {woken : RunState} (reporting : Reporting config before)
    (taken : LinuxNode.wake before woken = some after)
    (outlookSame : outlook config woken = outlook config before)
    (readySame : woken.ready = before.ready)
    (downloads : woken.downloads = before.downloads)
    (promises : promised woken.todo = true)
    (own : ∀ status, .send (.modelStatus status) ∉ woken.todo) :
    Reporting config after := by
  obtain ⟨idle, rfl⟩ := wake_eq_some.mp taken
  refine reporting.quiet outlookSame readySame promises
    (fun status member => absurd member (own status)) ?_
  simp [outstanding, downloads, idle]

private theorem reporting_send {rest : List LoopOp} {msg : Message}
    (reporting : Reporting config before)
    (todo : before.todo = .send msg :: rest)
    (fresh : reportsFresh before .loop = true) :
    Reporting config ({ before with todo := rest }.send msg) := by
  have promises := reporting.promises
  have own := reporting.own
  rw [todo] at promises own
  have same : outlook config ({ before with todo := rest }.send msg) =
      hear config.nodeId (outlook config before) msg := outlook_concat msg
  have count : outstanding before =
      outstanding ({ before with todo := rest }.send msg) +
        if LoopOp.reports (.send msg) then 1 else 0 := by
    simp only [outstanding, todo, List.countP_cons, RunState.send]
    omega
  refine ⟨by rw [same]; exact isSome_hear reporting.known msg,
    promised_tail promises,
    fun status member => own status (List.mem_cons_of_mem _ member), ?_⟩
  rw [same]
  cases msg with
  | modelStatus status =>
      rw [hear_modelStatus reporting.known (own status List.mem_cons_self)]
      simp only [reportsFresh, reportSent, todo, Bool.or_eq_true,
        beq_iff_eq, decide_eq_true_eq] at fresh
      rcases fresh with fresh | others
      · exact .inl (congrArg some fresh)
      · exact .inr (by rw [count] at others; simpa [LoopOp.reports] using others)
  | register register =>
      have later : rest.any LoopOp.reports = true :=
        ((Bool.and_eq_true _ _).mp promises).1
      obtain ⟨op, member, reports⟩ := List.any_eq_true.mp later
      refine .inr (Nat.lt_of_lt_of_le ?_ (Nat.le_add_right _ _))
      exact List.countP_pos_iff.mpr ⟨op, member, reports⟩
  | _ =>
      rcases reporting.current with current | waiting
      · exact .inl current
      · rw [count] at waiting
        exact .inr (by simpa [LoopOp.reports] using waiting)

private theorem reporting_loop {rest : List LoopOp} {op : LoopOp}
    (reporting : Reporting config before) (todo : before.todo = op :: rest)
    (looped : LoopStep config before rest op after)
    (fresh : reportsFresh before .loop = true) : Reporting config after := by
  have promises := reporting.promises
  have own := reporting.own
  rw [todo] at promises own
  have tail := promised_tail promises
  have ownTail : ∀ status, .send (.modelStatus status) ∈ rest →
      status.nodeId = config.nodeId :=
    fun status member => own status (List.mem_cons_of_mem _ member)
  cases looped with
  | sent => exact reporting_send reporting todo fresh
  | considered _ _ _ =>
      refine reporting.quiet rfl rfl tail ?_ ?_
      · intro status member
        exact ownTail status (by simpa using member)
      · simp [outstanding, todo, LoopOp.reports]
  | passed _ | refused _ =>
      refine reporting.quiet rfl rfl tail ownTail ?_
      simp [outstanding, todo, LoopOp.reports]
  | claimed _ _ =>
      refine reporting.quiet rfl rfl tail ownTail ?_
      simp [outstanding, todo, LoopOp.reports, Download.reports]
  | reported =>
      refine reporting.quiet rfl rfl tail ?_ ?_
      · intro status member
        rcases List.mem_cons.mp member with same | member
        · cases same
          rfl
        · exact ownTail status member
      · simp [outstanding, todo, List.countP_cons, LoopOp.reports]

theorem outstanding_set {task : ℕ} {download next : Download}
    (found : before.downloads[task]? = some download)
    (downloads : after.downloads = before.downloads.set task next)
    (todo : after.todo = before.todo) :
    outstanding after + (if download.reports then 1 else 0) =
      outstanding before + if next.reports then 1 else 0 := by
  have counted : (before.downloads.set task next).countP Download.reports +
      (if download.reports then 1 else 0) =
        before.downloads.countP Download.reports +
          if next.reports then 1 else 0 := countP_set_add _ found
  rw [outstanding, outstanding, todo, downloads]
  omega

theorem reporting_task {task : ℕ} {download next : Download}
    (reporting : Reporting config before)
    (found : before.downloads[task]? = some download)
    (downloads : after.downloads = before.downloads.set task next)
    (todo : after.todo = before.todo)
    (outlookSame : outlook config after = outlook config before)
    (readySame : after.ready = before.ready)
    (kept : download.reports = next.reports) : Reporting config after := by
  have counted := outstanding_set found downloads todo
  rw [kept] at counted
  refine reporting.quiet outlookSame readySame ?_ ?_ (by omega)
  · rw [todo]
    exact reporting.promises
  · rw [todo]
    exact reporting.own

private theorem reporting_download {task : ℕ} {succeeds : Bool}
    (reporting : Reporting config before)
    (taken : stepDownload before task succeeds = some after) :
    Reporting config after := by
  obtain ⟨download, found, ends⟩ := stepDownload_ends taken
  cases ends with
  | succeeded phase =>
      exact reporting_task reporting found rfl rfl rfl rfl
        (by simp [Download.reports, phase])
  | failed phase =>
      exact reporting_task reporting found rfl rfl rfl rfl
        (by simp [Download.reports, phase])

private theorem reporting_registered {task : ℕ} {download next : Download}
    (reporting : Reporting config before)
    (found : before.downloads[task]? = some download)
    (silent : download.reports = false) (started : next.reports = true)
    (downloads : after.downloads = before.downloads.set task next)
    (todo : after.todo = before.todo)
    (outlookSame : outlook config after = outlook config before) :
    Reporting config after := by
  have counted := outstanding_set found downloads todo
  rw [if_neg (by simp [silent]), if_pos started] at counted
  refine ⟨by rw [outlookSame]; exact reporting.known, ?_, ?_,
    .inr (by omega)⟩
  · rw [todo]
    exact reporting.promises
  · rw [todo]
    exact reporting.own

private theorem reporting_sent {task : ℕ} {download next : Download}
    {ready : List ModelId} (reporting : Reporting config before)
    (found : before.downloads[task]? = some download)
    (started : download.reports = true) (silent : next.reports = false)
    (downloads : after.downloads = before.downloads.set task next)
    (todo : after.todo = before.todo) (readySame : after.ready = before.ready)
    (heard : outlook config after = some ready)
    (fresh : ready = before.ready.sorted ∨ 1 < outstanding before) :
    Reporting config after := by
  have counted := outstanding_set found downloads todo
  rw [if_pos started, if_neg (by simp [silent])] at counted
  refine ⟨by rw [heard]; rfl, ?_, ?_, ?_⟩
  · rw [todo]
    exact reporting.promises
  · rw [todo]
    exact reporting.own
  · rw [heard, readySame]
    rcases fresh with rfl | others
    · exact .inl rfl
    · exact .inr (by omega)

private theorem reporting_advance {task : ℕ} {sizeMb : Option ℕ}
    (reporting : Reporting config before)
    (taken : stepAdvance config before task sizeMb = some after)
    (fresh : reportsFresh before (.advance task sizeMb) = true) :
    Reporting config after := by
  obtain ⟨download, found, advances⟩ := stepAdvance_advances taken
  cases advances with
  | untracked phase =>
      exact reporting_task reporting found rfl rfl rfl rfl
        (by simp [Download.reports, phase])
  | forgiven phase =>
      exact reporting_task reporting found rfl rfl rfl rfl
        (by simp [Download.reports, phase])
  | registered phase =>
      exact reporting_registered reporting found
        (by simp [Download.reports, phase]) rfl rfl rfl rfl
  | reporting phase =>
      exact reporting_task reporting found rfl rfl rfl rfl
        (by simp [Download.reports, phase])
  | finished phase =>
      simp only [reportsFresh, reportSent, found, Option.map_some, phase,
        Bool.or_eq_true, beq_iff_eq, decide_eq_true_eq] at fresh
      exact reporting_sent reporting found
        (by simp [Download.reports, phase]) rfl rfl rfl rfl
        ((outlook_concat _).trans (hear_modelStatus reporting.known rfl))
        fresh

private theorem reporting_step (reporting : Reporting config before)
    (taken : step app tunnel config host before event = some after)
    (fresh : reportsFresh before event = true) : Reporting config after := by
  cases event with
  | heartbeatTick awakeNow metrics =>
      refine reporting.wake taken rfl rfl rfl ?_ ?_
      · simp only
        split <;> rfl
      · intro status
        simp only
        split <;> simp [heartbeat]
  | repollTick =>
      refine reporting.wake taken rfl rfl rfl ?_ ?_
      · simp only
        split <;> rfl
      · intro status
        simp only
        split <;> simp
  | connectedChanged metrics =>
      refine reporting.wake taken rfl rfl rfl ?_ ?_
      · simp only
        split <;> rfl
      · intro status
        simp only
        split <;> simp [heartbeat]
  | catalogResponse models =>
      refine reporting.wake taken rfl rfl rfl ?_ ?_
      · exact promised_considered models
      · intro status
        simp
  | connection connected =>
      obtain rfl := Option.some.inj taken
      exact reporting.quiet rfl rfl reporting.promises reporting.own le_rfl
  | loop =>
      obtain ⟨op, rest, todo, looped⟩ := step_loop taken
      exact reporting_loop reporting todo looped fresh
  | download task succeeds => exact reporting_download reporting taken
  | advance task sizeMb => exact reporting_advance reporting taken fresh
  | stream event =>
      obtain rfl := Option.some.inj taken
      exact reporting.quiet ((outlook_concat _).trans (hear_toMessage event))
        rfl reporting.promises reporting.own le_rfl
  | process now =>
      obtain ⟨msg, rest, queue, rfl⟩ := step_process taken
      have same : FleetManager.outlook config.nodeId
          (before.peer.process app tunnel now msg) rest =
            outlook config before := by
        rw [outlook_process, outlook, queue]
      exact reporting.quiet same rfl reporting.promises reporting.own le_rfl

private theorem reporting_run
    (run : (node app tunnel config host awake peer).Run history final)
    (guarded : Guarded (fun _ state event => reportsFresh state event = true)
      history) : Reporting config final := by
  apply Run.guarded_invariant _ _ run guarded
  · have heard : outlook config
        (node app tunnel config host awake peer).init = some [] := by
      simp [FleetManager.outlook, node, hear, register]
    exact {
      known := by rw [heard]; rfl
      promises := rfl
      own := fun _ member => absurd member List.not_mem_nil
      current := .inl heard }
  · intro past before event after _ reporting fresh taken
    exact reporting_step reporting taken fresh

theorem Reporting.agrees (reporting : Reporting config state) :
    Agrees config state := by
  intro settled
  simp only [isSettled, Bool.and_eq_true, List.isEmpty_iff, List.all_eq_true,
    beq_iff_eq] at settled
  obtain ⟨⟨todo, queue⟩, finished⟩ := settled
  have none : outstanding state = 0 := by
    rw [outstanding, todo, List.countP_nil, Nat.zero_add,
      List.countP_eq_zero]
    intro download member
    simp [Download.reports, finished download member]
  rcases reporting.current with current | waiting
  · rw [outlook, queue] at current
    exact current
  · omega

/-- The registry agrees with the backend whenever nothing is under way. -/
theorem readyModels_agree
    (guarded : Guarded (fun _ state event => reportsFresh state event = true)
      history) :
    (node app tunnel config host awake peer).Along
      (fun _ => Agrees config) history := by
  intro earlier state inside reached
  exact (reporting_run reached (guarded.of_prefix inside)).agrees

private def twinModel (id : ModelId) : CatalogModel where
  id
  displayName := id
  downloadUrl := "https://models.example/" ++ id
  sha256 := "digest of " ++ id
  sizeBytes := 1000000000
  contextLength := 4096
  paramsBillions := 1
  backend := .llamaCpp

def twinConfig : Config where
  nodeId := "node"
  hostname := "host"
  limits := { gpuPowerPct := 100, memoryLimitMb := 24576 }
  selectedModels := []

def twinNode : Machine RunState RunEvent :=
  node bareApp 0 twinConfig { vendor := .nvidia, gpuName := "gpu" } true {}

private def twinEvents : List RunEvent :=
  [.catalogResponse [twinModel "a", twinModel "b"], .loop, .loop, .loop,
    .loop, .loop, .loop, .download 0 true, .download 1 true,
    .advance 0 none, .advance 0 none, .advance 0 (some 954), .advance 0 none,
    .advance 1 none, .advance 1 none]

private def processEvents : List RunEvent :=
  [.process 0, .process 0, .process 0, .process 0, .process 0]

theorem readyModels_agree_twins :
    ∃ history final, twinNode.Run history final ∧
      final.peer.readyModels "node" = some ["a", "b"] ∧
      twinNode.Along (fun _ => Agrees twinConfig) history := by
  obtain ⟨history, final, run, observed⟩ :=
    twinNode.exists_run_of_trace
      (twinEvents ++ [.advance 0 none, .advance 1 (some 954),
        .advance 1 none, .advance 1 none] ++ processEvents)
      (fun outcome =>
        outcome.2.peer.readyModels "node" = some ["a", "b"] ∧
        admits (fun _ state event => reportsFresh state event) []
          outcome.1 = true)
      (by decide +kernel)
  obtain ⟨held, admitted⟩ := of_decide_eq_true observed
  exact ⟨history, final, run, held,
    readyModels_agree (guarded_of_admits admitted)⟩

/-- The second task reports while the first one holds an older list. -/
theorem stale_report_wins :
    ∃ history final, twinNode.Run history final ∧
      final.peer.readyModels "node" = some ["a"] ∧
      final.ready.sorted = ["a", "b"] ∧ ¬ Agrees twinConfig final := by
  obtain ⟨history, final, run, observed⟩ :=
    twinNode.exists_run_of_trace
      (twinEvents ++ [.advance 1 (some 954), .advance 1 none,
        .advance 1 none, .advance 0 none] ++ processEvents)
      (fun outcome => isSettled outcome.2 = true ∧
        outcome.2.peer.readyModels "node" = some ["a"] ∧
        outcome.2.ready.sorted = ["a", "b"])
      (by decide +kernel)
  obtain ⟨settled, held, ready⟩ := of_decide_eq_true observed
  refine ⟨history, final, run, held, ready, fun agrees => ?_⟩
  have same : some ["a"] = some ["a", "b"] := by
    rw [← ready, ← agrees settled]
    exact held.symm
  cases same

end JwSwarm.LinuxNode
