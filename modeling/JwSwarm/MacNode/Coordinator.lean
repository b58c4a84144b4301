import JwSwarm.FleetManager.Peer
import JwSwarm.MacNode.Backend

namespace JwSwarm.MacNode

open Data Proto Transition FleetManager

/-! The macOS coordinator after `start`. Connection callbacks and configuration
changes run on the main actor, one at a time; the timer of `start` and the
download tasks run beside it, and every access of theirs to the configuration,
the backend or the tunnel is a step. The frames sent travel in order to the
Fleet Manager. -/

structure AppConfig where
  fleetUrl : String
  nodeId : NodeId
  hostname : String
  nodeCert : String
  caCert : String
  limits : OwnerLimits
  selectedModels : List ModelId

structure ModelCatalogFingerprint where
  downloadUrl : String
  sha256 : String
  deriving DecidableEq

def fingerprint (model : CatalogModel) : ModelCatalogFingerprint where
  downloadUrl := model.downloadUrl
  sha256 := model.sha256

/-- Where a download task is. When a download has ended it registers the model,
reads the ready models, addresses its report by the configuration and sends it,
all on its own thread. -/
inductive DownloadPhase where
  | between
  | downloading (model : CatalogModel)
  | downloaded (model : CatalogModel)
  | ended
  | listed (ready : List ModelId)
  | reporting (status : ModelStatus)
  deriving DecidableEq

structure DownloadTask where
  phase : DownloadPhase := .between
  supported : List CatalogModel

/-- The timer action of `start`, on a queue of its own. -/
inductive StartTimer where
  | armed
  | registering (payload : Register)
  | requesting
  | done

/-- What the main actor is about to do: in the connection callback from
`greeting` on, in `applyConfig` from `limiting` on. -/
inductive MainPhase where
  | idle
  | greeting
  | beating
  | reading
  | reporting (ready : List ModelId)
  | limiting (reconnect : Bool)
  | reconnecting
  | registering
  | requesting
  deriving DecidableEq

/-- `connectTimers` are the timer actions of connections that are outstanding,
`wire` the frames sent and not yet processed. -/
structure NodeCoordinator where
  config : AppConfig
  isTunnelConnected : Bool := false
  isAwake : Bool := true
  readyModels : List ModelId := []
  backend : LlamaBackend
  downloadingModels : KeySet ModelId := ∅
  failedModelFingerprints :
    AList fun _ : ModelId => ModelCatalogFingerprint := ∅
  main : MainPhase := .idle
  downloads : List DownloadTask := []
  startTimer : StartTimer := .armed
  connectTimers : ℕ := 0
  wire : List Message := []
  peer : Peer

/-- `metrics` is what the collectors return, `files` what the model directory
holds, `now` the Fleet Manager's clock. `main`, `startTimer` and `advance` are
the next step of the main actor, of the timer action and of a task. -/
inductive CoordinatorEvent where
  | connectionState (connected : Bool)
  | applyConfig (updated : AppConfig)
  | main (metrics : Metrics) (files : Files)
  | startTimer (metrics : Metrics)
  | connectTimer
  | handleCatalog (models : List CatalogModel)
  | takeNext (task : ℕ)
  | downloadEnd (task : ℕ) (succeeds : Bool)
  | advance (task : ℕ) (files : Files)
  | heartbeatTick (metrics : Metrics)
  | catalogPollTick
  | setAwake (awake : Bool)
  | load (id : ModelId) (files : Files) (loads : Bool)
  | stream (event : RequestEvent)
  | process (now : ℕ)

namespace NodeCoordinator

def send (state : NodeCoordinator) (msg : Message) : NodeCoordinator :=
  { state with wire := state.wire ++ [msg] }

def registerPayload (config : AppConfig) (metrics : Metrics) : Register where
  nodeId := config.nodeId
  hostname := config.hostname
  os := .macos
  gpu := {
    vendor := .apple, name := "Apple Silicon", vramMb := metrics.vramTotalMb }
  limits := config.limits
  selectedModels := config.selectedModels

def doSendRegister (state : NodeCoordinator) (metrics : Metrics) :
    NodeCoordinator :=
  state.send (.register (registerPayload state.config metrics))

def doSendCatalogRequest (state : NodeCoordinator) : NodeCoordinator :=
  state.send .catalogRequest

def scheduleState (state : NodeCoordinator) : ScheduleStateValue :=
  if state.isAwake then .awake else .asleep

def doSendHeartbeat (state : NodeCoordinator) (metrics : Metrics) :
    NodeCoordinator :=
  state.send (.heartbeat {
    nodeId := state.config.nodeId
    metrics := { metrics with inFlight := 0 }
    scheduleState := state.scheduleState })

def doSendScheduleState (state : NodeCoordinator) : NodeCoordinator :=
  state.send (.scheduleState {
    nodeId := state.config.nodeId, state := state.scheduleState })

def statusPayload (state : NodeCoordinator) (ready : List ModelId) :
    ModelStatus where
  nodeId := state.config.nodeId
  readyModels := ready

/-- `startOrRestartTunnel`, as far as the coordinator itself is concerned. -/
def restartTunnel (validUrl : String → Bool) (state : NodeCoordinator) :
    NodeCoordinator :=
  if validUrl state.config.fleetUrl then
    { state with isTunnelConnected := false }
  else state

def connectionState (state : NodeCoordinator) (connected : Bool) :
    NodeCoordinator :=
  { state with
    isTunnelConnected := connected
    main := if connected then .greeting else .idle }

def applyConfig (state : NodeCoordinator) (updated : AppConfig) :
    NodeCoordinator :=
  let old := state.config
  { state with
    config := updated
    main := .limiting (decide (old.fleetUrl ≠ updated.fleetUrl ∨
      old.nodeCert ≠ updated.nodeCert ∨ old.caCert ≠ updated.caCert)) }

def stepMain (validUrl : String → Bool) (state : NodeCoordinator)
    (metrics : Metrics) (files : Files) : Option NodeCoordinator :=
  match state.main with
  | .idle => none
  | .greeting =>
      some ({ state with
        main := .beating
        connectTimers := state.connectTimers + 1 }.doSendRegister metrics)
  | .beating =>
      some ({ state with main := .reading }.doSendHeartbeat metrics)
  | .reading => some { state with main := .reporting state.backend.ready }
  | .reporting ready =>
      some ({ state with main := .idle, readyModels := ready }.send
        (.modelStatus (state.statusPayload ready)))
  | .limiting reconnect =>
      some { state with
        main := if reconnect then .reconnecting else .registering
        backend := state.backend.updateMemoryLimitMb files
          state.config.limits.memoryLimitMb.toNat }
  | .reconnecting =>
      some (restartTunnel validUrl { state with main := .registering })
  | .registering =>
      some ({ state with main := .requesting }.doSendRegister metrics)
  | .requesting => some { state with main := .idle }.doSendCatalogRequest

def stepStartTimer (state : NodeCoordinator) (metrics : Metrics) :
    Option NodeCoordinator :=
  match state.startTimer with
  | .armed =>
      some { state with
        startTimer := .registering (registerPayload state.config metrics) }
  | .registering payload =>
      some ({ state with startTimer := .requesting }.send (.register payload))
  | .requesting => some { state with startTimer := .done }.doSendCatalogRequest
  | .done => none

def handleCatalog (state : NodeCoordinator) (models : List CatalogModel) :
    NodeCoordinator :=
  let selected := state.config.selectedModels
  let requested :=
    if selected = [] then models
    else models.filter fun model => model.id ∈ selected
  let supported := requested.filter fun model => model.backend = .llamaCpp
  { state with downloads := state.downloads ++ [{ supported }] }

def setDownload (state : NodeCoordinator) (task : ℕ)
    (download : DownloadTask) : NodeCoordinator :=
  { state with downloads := state.downloads.set task download }

def takeNext (state : NodeCoordinator) (task : ℕ) :
    Option NodeCoordinator := do
  let download ← state.downloads[task]?
  match download.phase, download.supported with
  | .between, model :: rest =>
      if model.id ∈ state.readyModels ∨
          model.id ∈ state.downloadingModels ∨
          state.failedModelFingerprints.lookup model.id =
            some (fingerprint model) then
        some (state.setDownload task { supported := rest })
      else
        some { state.setDownload task
            { phase := .downloading model, supported := rest } with
          downloadingModels := state.downloadingModels.insert model.id }
  | _, _ => none

/-- `downloadModel` has returned or thrown; the bookkeeping runs on the main
actor. -/
def downloadEnd (state : NodeCoordinator) (task : ℕ) (succeeds : Bool) :
    Option NodeCoordinator := do
  let download ← state.downloads[task]?
  match download.phase with
  | .downloading model =>
      if succeeds then
        some { state.setDownload task
            { download with phase := .downloaded model } with
          downloadingModels := state.downloadingModels.erase model.id
          failedModelFingerprints :=
            state.failedModelFingerprints.erase model.id }
      else
        some { state.setDownload task { download with phase := .ended } with
          downloadingModels := state.downloadingModels.erase model.id
          failedModelFingerprints :=
            state.failedModelFingerprints.insert model.id
              (fingerprint model) }
  | _ => none

/-- Back on its own thread, the task registers the model and reports. -/
def stepAdvance (state : NodeCoordinator) (task : ℕ) (files : Files) :
    Option NodeCoordinator := do
  let download ← state.downloads[task]?
  let moved (phase : DownloadPhase) :=
    state.setDownload task { download with phase }
  match download.phase with
  | .downloaded model =>
      some { moved .ended with
        backend := state.backend.register files model.id }
  | .ended => some (moved (.listed state.backend.ready))
  | .listed ready =>
      some { moved (.reporting (state.statusPayload ready)) with
        readyModels := ready }
  | .reporting status => some ((moved .between).send (.modelStatus status))
  | _ => none

end NodeCoordinator

open NodeCoordinator

def stepCoordinator (app : AppState) (tunnel : TunnelId)
    (validUrl : String → Bool) (state : NodeCoordinator) :
    CoordinatorEvent → Option NodeCoordinator
  | .connectionState connected =>
      if state.main = .idle then some (state.connectionState connected)
      else none
  | .applyConfig updated =>
      if state.main = .idle then some (state.applyConfig updated) else none
  | .main metrics files => state.stepMain validUrl metrics files
  | .startTimer metrics => state.stepStartTimer metrics
  | .connectTimer =>
      match state.main, state.connectTimers with
      | .idle, others + 1 =>
          some { state with connectTimers := others }.doSendCatalogRequest
      | _, _ => none
  | .handleCatalog models =>
      if state.main = .idle then some (state.handleCatalog models) else none
  | .takeNext task =>
      if state.main = .idle then state.takeNext task else none
  | .downloadEnd task succeeds =>
      if state.main = .idle then state.downloadEnd task succeeds else none
  | .advance task files => state.stepAdvance task files
  | .heartbeatTick metrics => some (state.doSendHeartbeat metrics)
  | .catalogPollTick =>
      some (if state.isTunnelConnected ∧ state.readyModels = [] then
        state.doSendCatalogRequest else state)
  | .setAwake awake =>
      some (if state.isAwake = awake then state
        else { state with isAwake := awake }.doSendScheduleState)
  | .load id files loads =>
      some { state with backend := state.backend.ensureLoaded files id loads }
  | .stream event => some (state.send event.toMessage)
  | .process now =>
      match state.wire with
      | [] => none
      | msg :: rest => some { state with
          wire := rest, peer := state.peer.process app tunnel now msg }

/-- `start` has set the limit, created the tunnel and armed its timer. -/
def coordinator (app : AppState) (tunnel : TunnelId)
    (validUrl : String → Bool) (config : AppConfig) (peer : Peer) :
    Machine NodeCoordinator CoordinatorEvent where
  init := {
    config
    backend := { memoryLimitMb := config.limits.memoryLimitMb.toNat }
    peer }
  step := stepCoordinator app tunnel validUrl

end JwSwarm.MacNode
