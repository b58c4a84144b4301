import JwSwarm.Data.ListSet
import JwSwarm.MacNode.Coordinator

namespace JwSwarm.MacNode

open Data Proto Transition FleetManager Machine NodeCoordinator

/-! The coordinator and the Fleet Manager agree on the ready models, as long as
no stale report and no `Register` without a report of its own comes last. -/

variable {app : AppState} {tunnel : TunnelId} {validUrl : String → Bool}
variable {config : AppConfig} {peer : Peer}
variable {history : History NodeCoordinator CoordinatorEvent}
variable {before after final state rest : NodeCoordinator}
variable {event : CoordinatorEvent}

/-- The task will tell the Fleet Manager about the node's ready models. -/
def DownloadTask.owes (nodeId : NodeId) (download : DownloadTask) : Bool :=
  match download.phase with
  | .between => false
  | .reporting status => status.nodeId == nodeId
  | _ => true

def StartTimer.registers (nodeId : NodeId) : StartTimer → Bool
  | .armed => true
  | .registering payload => payload.nodeId == nodeId
  | _ => false

def MainPhase.registers : MainPhase → Bool
  | .greeting | .limiting _ | .reconnecting | .registering => true
  | _ => false

def MainPhase.reports : MainPhase → Bool
  | .greeting | .beating | .reading | .reporting _ => true
  | _ => false

def registers (state : NodeCoordinator) : Bool :=
  state.startTimer.registers state.config.nodeId || state.main.registers

def outstanding (state : NodeCoordinator) : ℕ :=
  (state.startTimer.registers state.config.nodeId).toNat +
    state.main.registers.toNat + state.main.reports.toNat +
    state.downloads.countP (DownloadTask.owes state.config.nodeId)

/-- What a frame says of a node's ready models. -/
def tells : Message → Option (NodeId × List ModelId)
  | .register register => some (register.nodeId, [])
  | .modelStatus status => some (status.nodeId, status.readyModels)
  | _ => none

/-- What the step's frame says of them. -/
def told (state : NodeCoordinator) :
    CoordinatorEvent → Option (NodeId × List ModelId)
  | .main _ _ =>
      match state.main with
      | .greeting | .registering => some (state.config.nodeId, [])
      | .reporting ready => some (state.config.nodeId, ready)
      | _ => none
  | .startTimer _ =>
      match state.startTimer with
      | .registering payload => some (payload.nodeId, [])
      | _ => none
  | .advance task _ =>
      match state.downloads[task]?.map DownloadTask.phase with
      | some (.reporting status) => some (status.nodeId, status.readyModels)
      | _ => none
  | _ => none

/-- A frame about the configured node says what is ready when it is sent, a
`Register` that nothing is, or it is not the last one outstanding. -/
def tellsReady (state : NodeCoordinator) (event : CoordinatorEvent) : Bool :=
  (told state event).all fun frame =>
    frame.1 != state.config.nodeId || frame.2 == state.backend.ready ||
      decide (1 < outstanding state)

/-- No download runs, no timer is outstanding and every frame is processed. -/
def isIdle (state : NodeCoordinator) : Bool :=
  state.downloads.all (fun download => download.phase == .between) &&
    state.main == .idle && (match state.startTimer with
      | .done => true
      | _ => false) &&
    state.connectTimers == 0 && state.wire.isEmpty

def AgreesWhenIdle (state : NodeCoordinator) : Prop :=
  isIdle state = true →
    state.peer.readyModels state.config.nodeId = some state.backend.ready

/-- What the Fleet Manager will hold for the node of the configuration. -/
abbrev held (state : NodeCoordinator) : Option (List ModelId) :=
  outlook state.config.nodeId state.peer state.wire

structure Reported (state : NodeCoordinator) : Prop where
  known : registers state = true ∨ (held state).isSome = true
  current : 0 < outstanding state ∨ held state = some state.backend.ready

theorem held_send (state : NodeCoordinator) (msg : Message) :
    held (state.send msg) = hear state.config.nodeId (held state) msg :=
  outlook_concat msg

theorem outstanding_of_registers (due : registers state = true) :
    0 < outstanding state := by
  simp only [registers, Bool.or_eq_true] at due
  unfold outstanding
  rcases due with timer | main
  · rw [timer]
    exact Nat.lt_of_lt_of_le Nat.one_pos (by simp only [Bool.toNat_true]; omega)
  · rw [main]
    exact Nat.lt_of_lt_of_le Nat.one_pos (by simp only [Bool.toNat_true]; omega)

theorem reported_of_registers (due : registers state = true) :
    Reported state :=
  ⟨.inl due, .inl (outstanding_of_registers due)⟩

theorem Reported.quiet (reported : Reported before)
    (heldSame : held after = held before)
    (readySame : after.backend.ready = before.backend.ready)
    (due : registers before = true → registers after = true)
    (kept : outstanding before ≤ outstanding after) : Reported after := by
  refine ⟨?_, ?_⟩
  · rw [heldSame]
    exact reported.known.imp_left due
  · rw [heldSame, readySame]
    exact reported.current.imp_left fun waiting =>
      Nat.lt_of_lt_of_le waiting kept

theorem Reported.send {msg : Message} (reported : Reported state)
    (silent : hear state.config.nodeId (held state) msg = held state) :
    Reported (state.send msg) :=
  reported.quiet ((held_send state msg).trans silent) rfl id le_rfl

private theorem held_told {msg : Message} {nodeId : NodeId}
    {ready : List ModelId} (spoken : tells msg = some (nodeId, ready)) :
    held (state.send msg) =
      if nodeId = state.config.nodeId then
        match msg with
        | .register _ => some ready
        | _ => (held state).map fun _ => ready
      else held state := by
  rw [held_send]
  cases msg with
  | register register =>
      obtain ⟨rfl, rfl⟩ := Prod.mk.inj (Option.some.inj spoken)
      rfl
  | modelStatus status =>
      obtain ⟨rfl, rfl⟩ := Prod.mk.inj (Option.some.inj spoken)
      rfl
  | _ => cases spoken

/-- A step that sends a frame about ready models: `rest` is the state but for
the frame. -/
theorem Reported.told {msg : Message} {nodeId : NodeId}
    {ready : List ModelId} (reported : Reported before)
    (spoken : tells msg = some (nodeId, ready))
    (configSame : rest.config.nodeId = before.config.nodeId)
    (heldSame : held rest = held before)
    (readySame : rest.backend.ready = before.backend.ready)
    (due : registers before = true →
      registers rest = true ∨ (held (rest.send msg)).isSome = true)
    (kept : outstanding before ≤ outstanding rest +
      if nodeId = before.config.nodeId then 1 else 0)
    (safe : nodeId = before.config.nodeId → ready = before.backend.ready ∨
      1 < outstanding before) :
    Reported (rest.send msg) := by
  have known : registers (rest.send msg) = true ∨
      (held (rest.send msg)).isSome = true := by
    rcases reported.known with waiting | known
    · exact due waiting
    · rw [held_send, heldSame]
      exact .inr (isSome_hear known msg)
  refine ⟨known, ?_⟩
  rcases known with waiting | known
  · exact .inl (outstanding_of_registers waiting)
  · have frame := @held_told rest msg nodeId ready spoken
    rw [configSame, heldSame] at frame
    by_cases own : nodeId = before.config.nodeId
    · rw [if_pos own] at frame kept
      rcases safe own with fresh | others
      · refine .inr ?_
        show held (rest.send msg) = some rest.backend.ready
        rw [readySame, ← fresh]
        rw [frame] at known ⊢
        split at known
        · rfl
        · obtain ⟨held, before⟩ := Option.isSome_iff_exists.mp known
          obtain ⟨_, _, rfl⟩ := Option.map_eq_some_iff.mp before
          exact before
      · exact .inl (show 0 < outstanding rest by omega)
    · rw [if_neg own] at frame kept
      rw [frame]
      exact (reported.current.imp_left fun waiting =>
        Nat.lt_of_lt_of_le waiting kept).imp_right fun current =>
          current.trans (congrArg some readySame.symm)

theorem held_doSendRegister (metrics : Metrics) :
    held (state.doSendRegister metrics) = some [] :=
  (held_send state _).trans (if_pos rfl)

private theorem reported_greeting (reported : Reported before)
    (main : before.main = .greeting) (metrics : Metrics)
    (safe : tellsReady before (.main metrics files) = true) :
    Reported ({ before with
      main := .beating
      connectTimers := before.connectTimers + 1 }.doSendRegister metrics) := by
  refine reported.told rfl rfl rfl rfl (fun _ => .inr ?_) ?_ fun _ => ?_
  · exact congrArg Option.isSome (held_doSendRegister metrics)
  · simp [outstanding, main, MainPhase.registers, MainPhase.reports,
      registerPayload]
    omega
  · simpa [tellsReady, told, main] using safe

private theorem reported_registering (reported : Reported before)
    (main : before.main = .registering) (metrics : Metrics)
    (safe : tellsReady before (.main metrics files) = true) :
    Reported ({ before with main := .requesting }.doSendRegister metrics) := by
  refine reported.told rfl rfl rfl rfl (fun _ => .inr ?_) ?_ fun _ => ?_
  · exact congrArg Option.isSome (held_doSendRegister metrics)
  · simp [outstanding, main, MainPhase.registers, MainPhase.reports,
      registerPayload]
    omega
  · simpa [tellsReady, told, main] using safe

private theorem reported_stepMain {metrics : Metrics} {files : Files}
    (reported : Reported before)
    (safe : tellsReady before (.main metrics files) = true)
    (taken : before.stepMain validUrl metrics files = some after) :
    Reported after := by
  unfold stepMain at taken
  split at taken
  · cases taken
  · next main =>
      obtain rfl := Option.some.inj taken
      exact reported_greeting reported main metrics safe
  · next main =>
      obtain rfl := Option.some.inj taken
      refine Reported.send (reported.quiet rfl rfl ?_ ?_) rfl
      · simp [registers, main, MainPhase.registers]
      · simp [outstanding, main, MainPhase.registers, MainPhase.reports]
  · next main =>
      obtain rfl := Option.some.inj taken
      refine reported.quiet rfl rfl ?_ ?_
      · simp [registers, main, MainPhase.registers]
      · simp [outstanding, main, MainPhase.registers, MainPhase.reports]
  · next ready main =>
      obtain rfl := Option.some.inj taken
      refine reported.told rfl rfl rfl rfl (fun due => .inl ?_) ?_ fun _ => ?_
      · simpa [registers, main, MainPhase.registers] using due
      · simp [outstanding, main, MainPhase.registers, MainPhase.reports,
          statusPayload]
        omega
      · simpa [tellsReady, told, main, statusPayload] using safe
  · next reconnect main =>
      obtain rfl := Option.some.inj taken
      apply reported_of_registers
      cases reconnect <;> simp [registers, MainPhase.registers]
  · next main =>
      obtain rfl := Option.some.inj taken
      apply reported_of_registers
      unfold restartTunnel
      split <;> simp [registers, MainPhase.registers]
  · next main =>
      obtain rfl := Option.some.inj taken
      exact reported_registering reported main metrics safe
  · next main =>
      obtain rfl := Option.some.inj taken
      refine Reported.send (reported.quiet rfl rfl ?_ ?_) rfl
      · simp [registers, main, MainPhase.registers]
      · simp [outstanding, main, MainPhase.registers, MainPhase.reports]

private theorem reported_stepStartTimer {metrics : Metrics}
    (reported : Reported before)
    (safe : tellsReady before (.startTimer metrics) = true)
    (taken : before.stepStartTimer metrics = some after) :
    Reported after := by
  unfold stepStartTimer at taken
  split at taken
  · next timer =>
      obtain rfl := Option.some.inj taken
      refine reported.quiet rfl rfl ?_ ?_
      · simp [registers, StartTimer.registers, registerPayload]
      · simp [outstanding, timer, StartTimer.registers, registerPayload]
  · next payload timer =>
      obtain rfl := Option.some.inj taken
      refine reported.told rfl rfl rfl rfl (fun due => ?_) ?_ fun own => ?_
      · by_cases own : payload.nodeId = before.config.nodeId
        · refine .inr ?_
          rw [held_send]
          exact congrArg Option.isSome (if_pos own)
        · refine .inl ?_
          simpa [registers, timer, StartTimer.registers, own] using due
      · by_cases own : payload.nodeId = before.config.nodeId
        · simp [outstanding, timer, StartTimer.registers, own]
          omega
        · simp [outstanding, timer, StartTimer.registers, own]
      · simpa [tellsReady, told, timer, own] using safe
  · next timer =>
      obtain rfl := Option.some.inj taken
      refine Reported.send (reported.quiet rfl rfl ?_ ?_) rfl
      · simp [registers, timer, StartTimer.registers]
      · simp [outstanding, timer, StartTimer.registers]
  · cases taken

theorem owes_set {task : ℕ} {download next : DownloadTask} (nodeId : NodeId)
    (found : before.downloads[task]? = some download) :
    (before.downloads.set task next).countP (DownloadTask.owes nodeId) +
        (if download.owes nodeId then 1 else 0) =
      before.downloads.countP (DownloadTask.owes nodeId) +
        if next.owes nodeId then 1 else 0 :=
  countP_set_add _ found

theorem Reported.moved {task : ℕ} {download next : DownloadTask}
    (reported : Reported before)
    (found : before.downloads[task]? = some download)
    (kept : download.owes before.config.nodeId = true →
      next.owes before.config.nodeId = true)
    (config : after.config = before.config) (main : after.main = before.main)
    (timer : after.startTimer = before.startTimer)
    (downloads : after.downloads = before.downloads.set task next)
    (heldSame : held after = held before)
    (readySame : after.backend.ready = before.backend.ready) :
    Reported after := by
  refine reported.quiet heldSame readySame ?_ ?_
  · unfold registers
    rw [config, main, timer]
    exact id
  · have counted := @owes_set before task download next before.config.nodeId
      found
    unfold outstanding
    rw [config, main, timer, downloads]
    split at counted
    · next due =>
        rw [if_pos (kept due)] at counted
        omega
    · omega

private theorem reported_takeNext {task : ℕ} (reported : Reported before)
    (taken : before.takeNext task = some after) : Reported after := by
  simp only [takeNext, Option.bind_eq_bind, Option.bind_eq_some_iff] at taken
  obtain ⟨download, found, taken⟩ := taken
  split at taken
  · next phase supported =>
      have nothing : ¬ download.owes before.config.nodeId = true := by
        simp [DownloadTask.owes, phase]
      split at taken
      · obtain rfl := Option.some.inj taken
        exact reported.moved found (fun due => absurd due nothing)
          rfl rfl rfl rfl rfl rfl
      · obtain rfl := Option.some.inj taken
        exact reported.moved found (fun due => absurd due nothing)
          rfl rfl rfl rfl rfl rfl
  · cases taken

private theorem reported_downloadEnd {task : ℕ} {succeeds : Bool}
    (reported : Reported before)
    (taken : before.downloadEnd task succeeds = some after) :
    Reported after := by
  simp only [downloadEnd, Option.bind_eq_bind, Option.bind_eq_some_iff]
    at taken
  obtain ⟨download, found, taken⟩ := taken
  split at taken
  · split at taken
    · obtain rfl := Option.some.inj taken
      exact reported.moved found (fun _ => rfl) rfl rfl rfl rfl rfl rfl
    · obtain rfl := Option.some.inj taken
      exact reported.moved found (fun _ => rfl) rfl rfl rfl rfl rfl rfl
  · cases taken

private theorem reported_registered {task : ℕ} {download next : DownloadTask}
    (reported : Reported before)
    (found : before.downloads[task]? = some download)
    (due : next.owes before.config.nodeId = true)
    (backend : LlamaBackend) :
    Reported { before.setDownload task next with backend } := by
  refine ⟨reported.known, .inl ?_⟩
  have counted := @owes_set before task download next before.config.nodeId
    found
  have owed : 0 < (before.downloads.set task next).countP
      (DownloadTask.owes before.config.nodeId) := by
    rw [List.countP_pos_iff]
    have present : (before.downloads.set task next)[task]? = some next :=
      List.getElem?_set_self (List.getElem?_eq_some_iff.mp found).1
    exact ⟨next, List.mem_of_getElem? present, due⟩
  exact Nat.lt_of_lt_of_le owed (Nat.le_add_left _ _)

private theorem reported_stepAdvance {task : ℕ} {files : Files}
    (reported : Reported before)
    (safe : tellsReady before (.advance task files) = true)
    (taken : before.stepAdvance task files = some after) : Reported after := by
  simp only [stepAdvance, Option.bind_eq_bind, Option.bind_eq_some_iff]
    at taken
  obtain ⟨download, found, taken⟩ := taken
  split at taken
  · obtain rfl := Option.some.inj taken
    exact reported_registered reported found rfl _
  · obtain rfl := Option.some.inj taken
    exact reported.moved found (fun _ => rfl) rfl rfl rfl rfl rfl rfl
  · obtain rfl := Option.some.inj taken
    refine reported.moved found (fun _ => ?_) rfl rfl rfl rfl rfl rfl
    exact beq_self_eq_true _
  · next status phase =>
      obtain rfl := Option.some.inj taken
      have counted := @owes_set before task download
        { download with phase := .between } before.config.nodeId found
      have owes : download.owes before.config.nodeId =
          (status.nodeId == before.config.nodeId) := by
        simp [DownloadTask.owes, phase]
      refine reported.told rfl rfl rfl rfl .inl ?_ fun own => ?_
      · rw [owes] at counted
        simp only [DownloadTask.owes, beq_iff_eq, Bool.false_eq_true,
          if_false, add_zero] at counted
        simp only [outstanding, setDownload]
        omega
      · simpa [tellsReady, told, found, phase, own] using safe
  · cases taken

private theorem reported_step (reported : Reported before)
    (taken : stepCoordinator app tunnel validUrl before event = some after)
    (safe : tellsReady before event = true) : Reported after := by
  cases event with
  | connectionState connected =>
      simp only [stepCoordinator] at taken
      split at taken
      · next idle =>
          obtain rfl := Option.some.inj taken
          cases connected with
          | true =>
              apply reported_of_registers
              simp [registers, connectionState, MainPhase.registers]
          | false =>
              refine reported.quiet rfl rfl ?_ ?_
              · simp [registers, connectionState, idle]
              · simp [outstanding, connectionState, idle]
      · cases taken
  | applyConfig updated =>
      simp only [stepCoordinator] at taken
      split at taken
      · obtain rfl := Option.some.inj taken
        apply reported_of_registers
        simp [registers, applyConfig, MainPhase.registers]
      · cases taken
  | main metrics files => exact reported_stepMain reported safe taken
  | startTimer metrics => exact reported_stepStartTimer reported safe taken
  | connectTimer =>
      simp only [stepCoordinator] at taken
      split at taken
      · obtain rfl := Option.some.inj taken
        exact Reported.send (reported.quiet rfl rfl id le_rfl) rfl
      · cases taken
  | handleCatalog models =>
      simp only [stepCoordinator] at taken
      split at taken
      · obtain rfl := Option.some.inj taken
        refine reported.quiet rfl rfl id ?_
        simp [outstanding, handleCatalog]
      · cases taken
  | takeNext task =>
      simp only [stepCoordinator] at taken
      split at taken
      · exact reported_takeNext reported taken
      · cases taken
  | downloadEnd task succeeds =>
      simp only [stepCoordinator] at taken
      split at taken
      · exact reported_downloadEnd reported taken
      · cases taken
  | advance task files => exact reported_stepAdvance reported safe taken
  | heartbeatTick metrics =>
      obtain rfl := Option.some.inj taken
      exact reported.send rfl
  | catalogPollTick =>
      obtain rfl := Option.some.inj taken
      split
      · exact reported.send rfl
      · exact reported
  | setAwake awake =>
      obtain rfl := Option.some.inj taken
      split
      · exact reported
      · exact Reported.send (reported.quiet rfl rfl id le_rfl) rfl
  | load id files loads =>
      obtain rfl := Option.some.inj taken
      refine reported.quiet rfl ?_ (fun due => due) le_rfl
      exact congrArg KeySet.sorted
        (LlamaBackend.readyModels_ensureLoaded _ _ _ _)
  | stream event =>
      obtain rfl := Option.some.inj taken
      exact reported.send (hear_toMessage event)
  | process now =>
      simp only [stepCoordinator] at taken
      split at taken
      · cases taken
      · next msg rest wire =>
          obtain rfl := Option.some.inj taken
          have same : outlook before.config.nodeId
              (before.peer.process app tunnel now msg) rest = held before := by
            rw [outlook_process, held, wire]
          exact reported.quiet same rfl id le_rfl

private theorem reported_run
    (run : (coordinator app tunnel validUrl config peer).Run history final)
    (safe : Guarded (fun _ state event => tellsReady state event = true)
      history) : Reported final := by
  apply Run.guarded_invariant _ _ run safe
  · exact reported_of_registers rfl
  · intro past before event after _ reported safe taken
    exact reported_step reported taken safe

theorem Reported.agrees (reported : Reported state) :
    AgreesWhenIdle state := by
  intro idle
  simp only [isIdle, Bool.and_eq_true, List.all_eq_true, beq_iff_eq,
    List.isEmpty_iff] at idle
  obtain ⟨⟨⟨⟨between, main⟩, timer⟩, -⟩, wire⟩ := idle
  have none : outstanding state = 0 := by
    have settled : state.startTimer.registers state.config.nodeId = false := by
      split at timer
      · next done => rw [done]; rfl
      · cases timer
    have owed : state.downloads.countP
        (DownloadTask.owes state.config.nodeId) = 0 := by
      rw [List.countP_eq_zero]
      intro download member
      simp [DownloadTask.owes, between download member]
    rw [outstanding, settled, main, owed]
    rfl
  rcases reported.current with waiting | current
  · omega
  · rw [held, wire] at current
    exact current

theorem idle_agreement
    (safe : Guarded (fun _ state event => tellsReady state event = true)
      history) :
    (coordinator app tunnel validUrl config peer).Along
      (fun _ => AgreesWhenIdle) history := by
  intro earlier state inside reached
  exact (reported_run reached (safe.of_prefix inside)).agrees

def soloConfig : AppConfig where
  fleetUrl := "wss://fleet.example/tunnel"
  nodeId := "node"
  hostname := "host"
  nodeCert := "node.pem"
  caCert := "ca.crt"
  limits := { gpuPowerPct := 100, memoryLimitMb := 24576 }
  selectedModels := []

private def soloModel : CatalogModel where
  id := "m"
  displayName := "m"
  downloadUrl := "https://models.example/m"
  sha256 := "digest of m"
  sizeBytes := 1000000000
  contextLength := 4096
  paramsBillions := 1
  backend := .llamaCpp

private def soloFiles : Files := fun id => if id = "m" then some 954 else none

def soloNode : Machine NodeCoordinator CoordinatorEvent :=
  coordinator bareApp 0 (fun _ => true) soloConfig {}

private def mainSteps (steps : ℕ) : List CoordinatorEvent :=
  List.replicate steps (.main idleMetrics soloFiles)

private def readyEvents : List CoordinatorEvent :=
  .connectionState true :: mainSteps 4 ++
    [.startTimer idleMetrics, .startTimer idleMetrics, .startTimer idleMetrics,
      .connectTimer, .handleCatalog [soloModel], .takeNext 0,
      .downloadEnd 0 true, .advance 0 soloFiles, .advance 0 soloFiles,
      .advance 0 soloFiles, .advance 0 soloFiles]

theorem idle_agreement_ready :
    ∃ history final, soloNode.Run history final ∧ isIdle final = true ∧
      final.peer.readyModels "node" = some ["m"] ∧
      soloNode.Along (fun _ => AgreesWhenIdle) history := by
  obtain ⟨history, final, run, observed⟩ :=
    soloNode.exists_run_of_trace
      (readyEvents ++ List.replicate 7 (.process 0))
      (fun outcome => isIdle outcome.2 = true ∧
        outcome.2.peer.readyModels "node" = some ["m"] ∧
        admits (fun _ => tellsReady) [] outcome.1 = true)
      (by decide +kernel)
  obtain ⟨idle, known, admitted⟩ := of_decide_eq_true observed
  exact ⟨history, final, run, idle, known,
    idle_agreement (guarded_of_admits admitted)⟩

/-- The configuration is saved unchanged; the catalog that comes back finds the
model ready, so nothing is downloaded and nothing reported. -/
theorem saved_config_forgets_ready :
    ∃ history final, soloNode.Run history final ∧
      final.peer.readyModels "node" = some [] ∧
      final.backend.ready = ["m"] ∧ ¬ AgreesWhenIdle final := by
  obtain ⟨history, final, run, observed⟩ :=
    soloNode.exists_run_of_trace
      (readyEvents ++ .applyConfig soloConfig :: mainSteps 3 ++
        [.handleCatalog [soloModel], .takeNext 1] ++
          List.replicate 9 (.process 0))
      (fun outcome => isIdle outcome.2 = true ∧
        outcome.2.config.nodeId = "node" ∧
        outcome.2.peer.readyModels "node" = some [] ∧
        outcome.2.backend.ready = ["m"])
      (by decide +kernel)
  obtain ⟨idle, nodeId, known, ready⟩ := of_decide_eq_true observed
  refine ⟨history, final, run, known, ready, fun agrees => ?_⟩
  have same : some [] = some ["m"] := by
    rw [← ready, ← agrees idle, nodeId]
    exact known.symm
  cases same

end JwSwarm.MacNode
