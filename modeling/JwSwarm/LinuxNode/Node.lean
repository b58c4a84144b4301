import Mathlib.Data.String.Basic
import JwSwarm.Data.KeySet
import JwSwarm.FleetManager.Peer

namespace JwSwarm.LinuxNode

open Data Proto Transition FleetManager

/-! The Linux node: its run loop, the download tasks it spawns and the outbound
queue of its tunnel, which the Fleet Manager reads in order. Every access to
shared state is a step of its own. -/

structure Config where
  nodeId : NodeId
  hostname : String
  limits : OwnerLimits
  selectedModels : List ModelId

/-- What `det_vendor` and `gpu_name` find. -/
structure Host where
  vendor : GpuVendor
  gpuName : String

def register (config : Config) (host : Host) : Register where
  nodeId := config.nodeId
  hostname := config.hostname
  os := .linux
  gpu := {
    vendor := host.vendor
    name := host.gpuName
    vramMb := config.limits.memoryLimitMb }
  limits := config.limits
  selectedModels := config.selectedModels

def scheduleStateValue (awake : Bool) : ScheduleStateValue :=
  if awake then .awake else .asleep

/-- The backend's table of ready models; the limit bounds an artifact's size. -/
def registerReady (ready : KeySet ModelId) (limitMb : ℕ) (id : ModelId)
    (sizeMb : Option ℕ) : KeySet ModelId :=
  match sizeMb with
  | some size => if limitMb < size then ready.erase id else ready.insert id
  | none => ready.erase id

/-- What the run loop has still to do in the branch it is in. -/
inductive LoopOp where
  | send (msg : Message)
  | consider (model : CatalogModel)
  | claim (model : CatalogModel)
  | report

inductive DownloadPhase where
  | downloading
  | downloaded
  | untracked
  | forgiven
  | registered
  | reporting (ready : List ModelId)
  | finished
  deriving DecidableEq

structure Download where
  model : CatalogModel
  phase : DownloadPhase := .downloading
  deriving DecidableEq

/-- `queue` is what has been queued and not yet processed by the Fleet Manager. -/
structure RunState where
  ready : KeySet ModelId := ∅
  downloading : KeySet ModelId := ∅
  failed : AList fun _ : ModelId => String × String := ∅
  connected : Bool := false
  awake : Bool
  todo : List LoopOp := []
  downloads : List Download := []
  queue : List Message
  peer : Peer

/-- The first four wake the run loop. `awakeNow` is the schedule's answer,
`sizeMb` the size of the downloaded artifact, `now` the Fleet Manager's clock. -/
inductive RunEvent where
  | heartbeatTick (awakeNow : Bool) (metrics : Metrics)
  | repollTick
  | connectedChanged (metrics : Metrics)
  | catalogResponse (models : List CatalogModel)
  | connection (connected : Bool)
  | loop
  | download (task : ℕ) (succeeds : Bool)
  | advance (task : ℕ) (sizeMb : Option ℕ)
  | stream (event : RequestEvent)
  | process (now : ℕ)

namespace RunState

def send (state : RunState) (msg : Message) : RunState :=
  { state with queue := state.queue ++ [msg] }

def setDownload (state : RunState) (task : ℕ) (download : Download)
    (phase : DownloadPhase) : RunState :=
  { state with downloads := state.downloads.set task { download with phase } }

end RunState

def heartbeat (config : Config) (awake : Bool) (metrics : Metrics) : Message :=
  .heartbeat {
    nodeId := config.nodeId
    metrics
    scheduleState := scheduleStateValue awake }

/-- One operation of the run loop; `rest` is what remains after it. -/
def stepLoop (config : Config) (state : RunState) (rest : List LoopOp) :
    LoopOp → RunState
  | .send msg => { state with todo := rest }.send msg
  | .consider model =>
      if (config.selectedModels = [] ∨ model.id ∈ config.selectedModels) ∧
          model.backend = .llamaCpp ∧ model.id ∉ state.ready then
        { state with todo := .claim model :: rest }
      else { state with todo := rest }
  | .claim model =>
      if model.id ∈ state.downloading ∨
          state.failed.lookup model.id =
            some (model.downloadUrl, model.sha256) then
        { state with todo := rest }
      else { state with
        todo := rest
        downloading := state.downloading.insert model.id
        downloads := state.downloads ++ [{ model }] }
  | .report => { state with
      todo := .send (.modelStatus {
        nodeId := config.nodeId
        readyModels := state.ready.sorted }) :: rest }

def stepDownload (state : RunState) (task : ℕ) (succeeds : Bool) :
    Option RunState := do
  let download ← state.downloads[task]?
  match download.phase with
  | .downloading =>
      if succeeds then
        some (state.setDownload task download .downloaded)
      else
        some { state.setDownload task download .finished with
          downloading := state.downloading.erase download.model.id
          failed := state.failed.insert download.model.id
            (download.model.downloadUrl, download.model.sha256) }
  | _ => none

def stepAdvance (config : Config) (state : RunState) (task : ℕ)
    (sizeMb : Option ℕ) : Option RunState := do
  let download ← state.downloads[task]?
  match download.phase with
  | .downloading => none
  | .downloaded =>
      some { state.setDownload task download .untracked with
        downloading := state.downloading.erase download.model.id }
  | .untracked =>
      some { state.setDownload task download .forgiven with
        failed := state.failed.erase download.model.id }
  | .forgiven =>
      some { state.setDownload task download .registered with
        ready := registerReady state.ready config.limits.memoryLimitMb.toNat
          download.model.id sizeMb }
  | .registered =>
      some (state.setDownload task download (.reporting state.ready.sorted))
  | .reporting readyModels =>
      some ((state.setDownload task download .finished).send
        (.modelStatus { nodeId := config.nodeId, readyModels }))
  | .finished => none

section Tasks

variable {config : Config} {state next : RunState} {task : ℕ}
variable {download : Download} {sizeMb : Option ℕ} {succeeds : Bool}

inductive EndStep (state : RunState) (task : ℕ) (download : Download) :
    Bool → RunState → Prop
  | succeeded (phase : download.phase = .downloading) :
      EndStep state task download true
        (state.setDownload task download .downloaded)
  | failed (phase : download.phase = .downloading) :
      EndStep state task download false
        { state.setDownload task download .finished with
          downloading := state.downloading.erase download.model.id
          failed := state.failed.insert download.model.id
            (download.model.downloadUrl, download.model.sha256) }

theorem stepDownload_ends
    (taken : stepDownload state task succeeds = some next) :
    ∃ download, state.downloads[task]? = some download ∧
      EndStep state task download succeeds next := by
  simp only [stepDownload, Option.bind_eq_bind, Option.bind_eq_some_iff]
    at taken
  obtain ⟨download, found, taken⟩ := taken
  refine ⟨download, found, ?_⟩
  split at taken
  · next phase =>
      cases succeeds with
      | true =>
          obtain rfl := Option.some.inj taken
          exact .succeeded phase
      | false =>
          obtain rfl := Option.some.inj taken
          exact .failed phase
  · cases taken

inductive AdvanceStep (config : Config) (state : RunState) (task : ℕ)
    (download : Download) (sizeMb : Option ℕ) : RunState → Prop
  | untracked (phase : download.phase = .downloaded) :
      AdvanceStep config state task download sizeMb
        { state.setDownload task download .untracked with
          downloading := state.downloading.erase download.model.id }
  | forgiven (phase : download.phase = .untracked) :
      AdvanceStep config state task download sizeMb
        { state.setDownload task download .forgiven with
          failed := state.failed.erase download.model.id }
  | registered (phase : download.phase = .forgiven) :
      AdvanceStep config state task download sizeMb
        { state.setDownload task download .registered with
          ready := registerReady state.ready
            config.limits.memoryLimitMb.toNat download.model.id sizeMb }
  | reporting (phase : download.phase = .registered) :
      AdvanceStep config state task download sizeMb
        (state.setDownload task download (.reporting state.ready.sorted))
  | finished {readyModels : List ModelId}
      (phase : download.phase = .reporting readyModels) :
      AdvanceStep config state task download sizeMb
        ((state.setDownload task download .finished).send
          (.modelStatus { nodeId := config.nodeId, readyModels }))

theorem stepAdvance_advances
    (taken : stepAdvance config state task sizeMb = some next) :
    ∃ download, state.downloads[task]? = some download ∧
      AdvanceStep config state task download sizeMb next := by
  simp only [stepAdvance, Option.bind_eq_bind, Option.bind_eq_some_iff]
    at taken
  obtain ⟨download, found, taken⟩ := taken
  refine ⟨download, found, ?_⟩
  split at taken
  · cases taken
  · next phase =>
      obtain rfl := Option.some.inj taken
      exact .untracked phase
  · next phase =>
      obtain rfl := Option.some.inj taken
      exact .forgiven phase
  · next phase =>
      obtain rfl := Option.some.inj taken
      exact .registered phase
  · next phase =>
      obtain rfl := Option.some.inj taken
      exact .reporting phase
  · next phase =>
      obtain rfl := Option.some.inj taken
      exact .finished phase
  · cases taken

inductive LoopStep (config : Config) (state : RunState)
    (rest : List LoopOp) : LoopOp → RunState → Prop
  | sent {msg : Message} :
      LoopStep config state rest (.send msg)
        ({ state with todo := rest }.send msg)
  | considered {model : CatalogModel}
      (selected : config.selectedModels = [] ∨
        model.id ∈ config.selectedModels)
      (backend : model.backend = .llamaCpp)
      (unready : model.id ∉ state.ready) :
      LoopStep config state rest (.consider model)
        { state with todo := .claim model :: rest }
  | passed {model : CatalogModel}
      (unwanted : ¬ ((config.selectedModels = [] ∨
          model.id ∈ config.selectedModels) ∧
        model.backend = .llamaCpp ∧ model.id ∉ state.ready)) :
      LoopStep config state rest (.consider model) { state with todo := rest }
  | refused {model : CatalogModel}
      (busy : model.id ∈ state.downloading ∨
        state.failed.lookup model.id =
          some (model.downloadUrl, model.sha256)) :
      LoopStep config state rest (.claim model) { state with todo := rest }
  | claimed {model : CatalogModel} (free : model.id ∉ state.downloading)
      (fresh : state.failed.lookup model.id ≠
        some (model.downloadUrl, model.sha256)) :
      LoopStep config state rest (.claim model)
        { state with
          todo := rest
          downloading := state.downloading.insert model.id
          downloads := state.downloads ++ [{ model }] }
  | reported :
      LoopStep config state rest .report
        { state with
          todo := .send (.modelStatus {
            nodeId := config.nodeId
            readyModels := state.ready.sorted }) :: rest }

private theorem loopStep (rest : List LoopOp) (op : LoopOp) :
    LoopStep config state rest op (stepLoop config state rest op) := by
  cases op with
  | send msg => exact .sent
  | consider model =>
      simp only [stepLoop]
      split
      · next wanted => exact .considered wanted.1 wanted.2.1 wanted.2.2
      · next unwanted => exact .passed unwanted
  | claim model =>
      simp only [stepLoop]
      split
      · next busy => exact .refused busy
      · next free =>
          obtain ⟨free, fresh⟩ := not_or.mp free
          exact .claimed free fresh
  | report => exact .reported

end Tasks

/-- The run loop waits in its `select`. -/
def wake (state : RunState) (woken : RunState) : Option RunState :=
  if state.todo.isEmpty then some woken else none

theorem wake_eq_some {state woken after : RunState} :
    wake state woken = some after ↔ state.todo = [] ∧ woken = after := by
  unfold wake
  rw [← List.isEmpty_iff]
  split <;> simp [*]

def step (app : AppState) (tunnel : TunnelId) (config : Config) (host : Host)
    (state : RunState) : RunEvent → Option RunState
  | .heartbeatTick awakeNow metrics =>
      let schedule : List LoopOp :=
        if awakeNow = state.awake then []
        else [.send (.scheduleState {
          nodeId := config.nodeId
          state := scheduleStateValue awakeNow })]
      wake state { state with
        awake := awakeNow
        todo := schedule ++ [.send (heartbeat config awakeNow metrics)] }
  | .repollTick =>
      wake state { state with
        todo :=
          if state.connected ∧ state.ready.keys = [] then
            [.send .catalogRequest]
          else [] }
  | .connectedChanged metrics =>
      wake state { state with
        todo :=
          if state.connected then
            [.send (.register (register config host)), .send .catalogRequest,
              .send (heartbeat config state.awake metrics), .report]
          else [] }
  | .catalogResponse models =>
      wake state { state with todo := models.map .consider ++ [.report] }
  | .connection connected => some { state with connected }
  | .loop =>
      match state.todo with
      | [] => none
      | op :: rest => some (stepLoop config state rest op)
  | .download task succeeds => stepDownload state task succeeds
  | .advance task sizeMb => stepAdvance config state task sizeMb
  | .stream event => some (state.send event.toMessage)
  | .process now =>
      match state.queue with
      | [] => none
      | msg :: rest => some { state with
          queue := rest, peer := state.peer.process app tunnel now msg }

section Steps

variable {app : AppState} {tunnel : TunnelId} {config : Config} {host : Host}
variable {state next : RunState} {now : ℕ}

theorem step_loop
    (taken : step app tunnel config host state .loop = some next) :
    ∃ op rest, state.todo = op :: rest ∧
      LoopStep config state rest op next := by
  simp only [step] at taken
  split at taken
  · cases taken
  · next op rest todo =>
      obtain rfl := Option.some.inj taken
      exact ⟨op, rest, todo, loopStep rest op⟩

theorem step_process
    (taken : step app tunnel config host state (.process now) = some next) :
    ∃ msg rest, state.queue = msg :: rest ∧ next = { state with
      queue := rest, peer := state.peer.process app tunnel now msg } := by
  simp only [step] at taken
  split at taken
  · cases taken
  · next msg rest queue =>
      exact ⟨msg, rest, queue, (Option.some.inj taken).symm⟩

end Steps

/-- `run` has queued its first two messages before the loop starts. `awake` is
the schedule's answer at that time. -/
def node (app : AppState) (tunnel : TunnelId) (config : Config) (host : Host)
    (awake : Bool) (peer : Peer) : Machine RunState RunEvent where
  init := {
    awake
    queue := [.register (register config host), .catalogRequest]
    peer }
  step := step app tunnel config host

end JwSwarm.LinuxNode
