import JwSwarm.FleetManager.Catalog
import JwSwarm.FleetManager.Accounting
import JwSwarm.FleetManager.Router
import JwSwarm.FleetManager.Db

namespace JwSwarm.FleetManager

open Proto

/-! The node tunnel: what handling one message does to the registry, to the
tunnel's own session and to everyone it notifies. -/

structure AppState where
  catalog : Catalog
  weights : Router.Weights := .default
  accounting : Accounting := {}
  sqlite : Sqlite := .bundled

structure Session where
  nodeId : NodeId
  prevHeartbeatMs : Option ℕ
  gpuPowerPct : ℚ
  vramMb : ℚ
  paramsByModel : AList fun _ : ModelId => ℚ

/-- The frame of a heartbeat handler suspended at one of its two awaits: first
`touch_session_awake`, then `credit_points`. -/
structure CapacityCredit where
  nodeId : NodeId
  deltaMs : ℕ
  points : ℚ
  source : String
  touched : Bool := false

def deltaSec (deltaMs : ℕ) : ℚ := (deltaMs : ℚ) / 1000

structure Outcome where
  registry : Registry
  session : Option Session
  sent : List Message := []
  awaited : Option CapacityCredit := none
  spawned : List (List DbCall) := []
  delivered : Option (RequestId × RequestEvent) := none

def paramsByModel (models : List CatalogModel) :
    AList fun _ : ModelId => ℚ :=
  models.foldl (fun params model => params.insert model.id model.paramsBillions)
    ∅

def handleRegister (app : AppState) (registry : Registry) (tx : TunnelId)
    (register : Register) : Outcome :=
  let gpuPowerPct : ℚ := register.limits.gpuPowerPct.toNat
  let vramMb : ℚ := register.limits.memoryLimitMb.toNat
  { registry := registry.upsertNode register tx
    session := some {
      nodeId := register.nodeId
      prevHeartbeatMs := none
      gpuPowerPct
      vramMb
      paramsByModel :=
        paramsByModel (app.catalog.resolveFor register.gpu.vendor) }
    spawned := [[.upsertNode register,
      .openSession register.nodeId gpuPowerPct vramMb]] }

def handleCatalogRequest (app : AppState) (registry : Registry)
    (session : Option Session) : Outcome :=
  let models :=
    match session.bind fun own => registry.nodeVendor own.nodeId with
    | some vendor => app.catalog.resolveFor vendor
    | none => []
  { registry, session, sent := [.catalogResponse { models }] }

/-- The capacity credit of a heartbeat, decided before the first await. -/
def capacityCredit (app : AppState) (session : Session) (now : ℕ)
    (state : ScheduleStateValue) : Option CapacityCredit :=
  let deltaMs := now - session.prevHeartbeatMs.getD now
  if 0 < deltaMs ∧ state = .awake then
    let points := app.accounting.capacityPoints (deltaSec deltaMs)
      session.gpuPowerPct session.vramMb
    if 0 < points then
      some {
        nodeId := session.nodeId
        deltaMs
        points
        source := "hb_" ++ toString now }
    else none
  else none

def handleHeartbeat (app : AppState) (registry : Registry)
    (session : Option Session) (now : ℕ) (heartbeat : Heartbeat) : Outcome :=
  let updated := registry.updateMetrics heartbeat.nodeId heartbeat.metrics
    heartbeat.scheduleState
  match session with
  | some own =>
      if own.nodeId = heartbeat.nodeId then
        { registry := updated
          session := some { own with prevHeartbeatMs := some now }
          awaited := capacityCredit app own now heartbeat.scheduleState }
      else { registry := updated, session }
  | none => { registry := updated, session }

/-- The latency recorded with a delivery: the node's latest heartbeat, if the
registry still knows the node. -/
def recordedLatency (registry : Registry) (nodeId : NodeId) : ℚ :=
  match registry.snapshot.find? fun node => node.nodeId == nodeId with
  | some node => (node.metrics.map Metrics.latencyMs).getD 0
  | none => 0

def deliveryTask (app : AppState) (registry : Registry)
    (session : Option Session) (done : Done) (request : PendingMeta) :
    List DbCall :=
  let params := (session.bind fun own =>
    own.paramsByModel.lookup request.model).getD 7
  let points := app.accounting.deliveryPoints done.usage params
  [.recordDelivery done.requestId request.nodeId request.model done.usage
      (recordedLatency registry request.nodeId),
    .creditPoints request.nodeId "delivery" points done.requestId]

def handleDone (app : AppState) (registry : Registry)
    (session : Option Session) (done : Done) : Outcome :=
  { registry
    session
    spawned := (registry.getPending done.requestId).toList.map
      (deliveryTask app registry session done)
    delivered := registry.dispatchEvent done.requestId (.done done) }

def handleMessage (app : AppState) (registry : Registry) (tx : TunnelId)
    (session : Option Session) (now : ℕ) : Message → Outcome
  | .register register => handleRegister app registry tx register
  | .catalogRequest => handleCatalogRequest app registry session
  | .heartbeat heartbeat =>
      handleHeartbeat app registry session now heartbeat
  | .modelStatus status =>
      { registry := registry.updateReadyModels status.nodeId status.readyModels
        session }
  | .scheduleState schedule =>
      { registry := registry.updateSchedule schedule.nodeId schedule.state
        session }
  | .tokenChunk chunk =>
      { registry
        session
        delivered := registry.dispatchEvent chunk.requestId (.chunk chunk) }
  | .done done => handleDone app registry session done
  | .error error =>
      { registry
        session
        delivered := registry.dispatchEvent error.requestId (.error error) }
  -- server-only messages are ignored with a warning
  | .catalogResponse _ => { registry, session }
  | .promptDispatch _ => { registry, session }

end JwSwarm.FleetManager
