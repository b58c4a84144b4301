import JwSwarm.Transition.Machine
import JwSwarm.FleetManager.Api

namespace JwSwarm.FleetManager

open Proto Transition

/-! The whole Fleet Manager as a machine: tunnel tasks with their writer tasks,
chat calls, spawned database tasks and the clock, in any interleaving. -/

/-- What the read loop of a tunnel gets from its socket. -/
inductive Inbound where
  | text (msg : Message)
  | invalid
  | control
  | close
  | readError
  | ended

inductive TunnelPhase where
  | reading
  | closing
  | finished
  deriving DecidableEq

/-- `outbox` and `receiving` are the writer task's channel: what waits in it,
and whether its receiver still exists. -/
structure Tunnel where
  phase : TunnelPhase := .reading
  session : Option Session := none
  awaited : Option CapacityCredit := none
  outbox : List Message := []
  receiving : Bool := true

structure FleetState where
  clock : ℕ := 0
  registry : Registry := {}
  tunnels : List Tunnel := []
  calls : AList fun _ : RequestId => ChatCall := ∅
  tasks : List (List DbCall) := []
  db : Db := {}

/-- A chat call is named by the UUID it draws, so `request` takes a fresh one.
`nodes` is the order in which the snapshot lists the registry's nodes. -/
inductive Event where
  | tick (elapsed : ℕ)
  | connect
  | receive (tunnel : TunnelId) (frame : Inbound)
  | resume (tunnel : TunnelId) (succeeds : Bool)
  | write (tunnel : TunnelId) (succeeds : Bool)
  | writerEnd (tunnel : TunnelId)
  | finish (tunnel : TunnelId)
  | runTask (task : ℕ) (succeeds : Bool)
  | request (id : RequestId) (body : Json) (nodes : List NodeState)
  | lookupSender (id : RequestId)
  | registerRequest (id : RequestId)
  | send (id : RequestId)
  | recv (id : RequestId)
  | disconnect (id : RequestId)

namespace FleetState

def setTunnel (state : FleetState) (tunnel : TunnelId) (task : Tunnel) :
    FleetState :=
  { state with tunnels := state.tunnels.set tunnel task }

def setCall (state : FleetState) (id : RequestId) (call : ChatCall) :
    FleetState :=
  { state with calls := state.calls.insert id call }

/-- `tx.send(event)` on a request's channel; an error is discarded. -/
def deliver (state : FleetState) :
    Option (RequestId × RequestEvent) → FleetState
  | none => state
  | some (channel, event) =>
      match state.calls.lookup channel with
      | some call => state.setCall channel (call.offer event)
      | none => state

def sessionNode (state : FleetState) (tunnel : TunnelId) : Option NodeId :=
  (state.tunnels[tunnel]?.bind Tunnel.session).map Session.nodeId

def isReading (state : FleetState) (tunnel : TunnelId) : Bool :=
  state.tunnels[tunnel]?.any fun task => task.phase == .reading

/-- Every clone of the tunnel's outbound sender: the task's own, the registry's
and those of the handlers. -/
def senderAlive (state : FleetState) (tunnel : TunnelId) : Bool :=
  state.isReading tunnel ||
    state.registry.nodes.entries.any (fun entry => entry.2.tx == tunnel) ||
    state.calls.entries.any fun entry => entry.2.heldSender == some tunnel

end FleetState

open FleetState

/-- One decoded message, handled by the read loop without giving way. -/
def stepMessage (app : AppState) (state : FleetState) (tunnel : TunnelId)
    (task : Tunnel) (msg : Message) : FleetState :=
  let outcome := handleMessage app state.registry tunnel task.session
    state.clock msg
  let handled := { state with
    registry := outcome.registry
    tunnels := state.tunnels.set tunnel { task with
      session := outcome.session
      awaited := outcome.awaited
      outbox :=
        if task.receiving then task.outbox ++ outcome.sent else task.outbox }
    tasks := state.tasks ++ outcome.spawned }
  handled.deliver outcome.delivered

/-- The end of the read loop: the disconnect path up to `drop(tx)`. -/
def stepClose (state : FleetState) (tunnel : TunnelId) (task : Tunnel) :
    FleetState :=
  let closed := state.setTunnel tunnel { task with phase := .closing }
  match task.session with
  | some session =>
      { closed with
        registry := closed.registry.removeNode session.nodeId
        tasks := closed.tasks ++ [[.closeSession session.nodeId]] }
  | none => closed

def stepReceive (app : AppState) (state : FleetState) (tunnel : TunnelId)
    (frame : Inbound) : Option FleetState := do
  let task ← state.tunnels[tunnel]?
  guard (task.phase = .reading ∧ task.awaited.isNone)
  match frame with
  | .text msg => some (stepMessage app state tunnel task msg)
  | .invalid => some state
  | .control => some state
  | .close => some (stepClose state tunnel task)
  | .readError => some (stepClose state tunnel task)
  | .ended => some (stepClose state tunnel task)

/-- A heartbeat handler gets the result of the database call it awaits. -/
def stepResume (state : FleetState) (tunnel : TunnelId) (succeeds : Bool) :
    Option FleetState := do
  let task ← state.tunnels[tunnel]?
  let credit ← task.awaited
  if credit.touched then
    let db ← state.db.attempt state.clock
      (.creditPoints credit.nodeId "capacity" credit.points credit.source)
      succeeds
    some ({ state with db }.setTunnel tunnel { task with awaited := none })
  else
    let db ← state.db.attempt state.clock
      (.touchSessionAwake credit.nodeId (deltaSec credit.deltaMs)) succeeds
    some ({ state with db }.setTunnel tunnel
      { task with awaited := some { credit with touched := true } })

/-- The writer task passes one message to the socket; a failed send drops the
receiver and with it what is still queued. -/
def stepWrite (state : FleetState) (tunnel : TunnelId) (succeeds : Bool) :
    Option FleetState := do
  let task ← state.tunnels[tunnel]?
  guard (task.receiving = true)
  match task.outbox with
  | [] => none
  | _ :: rest =>
      if succeeds then
        some (state.setTunnel tunnel { task with outbox := rest })
      else
        some (state.setTunnel tunnel
          { task with outbox := [], receiving := false })

/-- `rx.recv()` returns `None`: the channel is empty and has no sender. -/
def stepWriterEnd (state : FleetState) (tunnel : TunnelId) :
    Option FleetState := do
  let task ← state.tunnels[tunnel]?
  guard (task.receiving = true ∧ task.outbox.isEmpty ∧
    state.senderAlive tunnel = false)
  some (state.setTunnel tunnel { task with receiving := false })

def stepFinish (state : FleetState) (tunnel : TunnelId) :
    Option FleetState := do
  let task ← state.tunnels[tunnel]?
  guard (task.phase = .closing ∧ task.receiving = false)
  some (state.setTunnel tunnel { task with phase := .finished })

def stepRunTask (state : FleetState) (task : ℕ) (succeeds : Bool) :
    Option FleetState := do
  match ← state.tasks[task]? with
  | [] => none
  | call :: rest =>
      let db ← state.db.attempt state.clock call succeeds
      some { state with db, tasks := state.tasks.set task rest }

def stepRequest (app : AppState) (state : FleetState) (id : RequestId)
    (body : Json) (nodes : List NodeState) : Option FleetState := do
  guard ((state.calls.lookup id).isNone ∧ nodes.Perm state.registry.snapshot)
  some (state.setCall id (startCall app nodes body))

def stepLookupSender (state : FleetState) (id : RequestId) :
    Option FleetState := do
  let call ← state.calls.lookup id
  match call.phase with
  | .picked nodeId =>
      match state.registry.nodeSender nodeId with
      | some sender =>
          some (state.setCall id
            { call with phase := .addressed nodeId sender })
      | none =>
          some (state.setCall id { call with
            phase := .returned (.error 503 "selected node disconnected") })
  | _ => none

def stepRegisterRequest (state : FleetState) (id : RequestId) :
    Option FleetState := do
  let call ← state.calls.lookup id
  match call.phase with
  | .addressed nodeId sender =>
      some ({ state with
        registry := state.registry.registerRequest id call.model nodeId id
        }.setCall id { call with phase := .registered nodeId sender })
  | _ => none

def stepSend (state : FleetState) (id : RequestId) : Option FleetState := do
  let call ← state.calls.lookup id
  match call.phase with
  | .registered nodeId sender =>
      let task ← state.tunnels[sender]?
      if task.receiving then
        let dispatch := Message.promptDispatch
          { requestId := id, model := call.model, payload := call.payload }
        some ((state.setTunnel sender
          { task with outbox := task.outbox ++ [dispatch] }).setCall id
          { call with
            phase := .awaiting nodeId sender
            created := state.clock / 1000 })
      else
        some ({ state with
          registry := state.registry.completeRequest id }.setCall id
          { call with
            phase := .returned (.error 503 "failed to dispatch to node") })
  | _ => none

/-- The handler or its response stream takes the next event from its channel,
or sees the channel closed because its pending entry is gone. -/
def stepRecv (state : FleetState) (id : RequestId) : Option FleetState := do
  let call ← state.calls.lookup id
  match call.phase with
  | .awaiting _ _ =>
      match call.inbox with
      | event :: rest =>
          let next := { call with
            inbox := rest, received := call.received ++ [event] }
          if call.stream then
            some (state.setCall id next)
          else
            match bufferedLoop "" next.received with
            | none => some (state.setCall id next)
            | some exit =>
                some ({ state with
                  registry := state.registry.completeRequest id }.setCall id
                  { next with phase := .returned (respond id call exit) })
      | [] =>
          guard (state.registry.pending.lookup id).isNone
          if call.stream then
            some (state.setCall id { call with phase := .returned .sse })
          else
            some (state.setCall id { call with
              phase := .returned
                (respond id call (bufferedClosed call.received)) })
  | _ => none

/-- The client goes away. Dropping the response stream runs its cleanup guard;
dropping the buffered handler runs nothing. -/
def stepDisconnect (state : FleetState) (id : RequestId) :
    Option FleetState := do
  let call ← state.calls.lookup id
  match call.phase with
  | .awaiting _ _ =>
      let gone := state.setCall id { call with phase := .abandoned }
      if call.stream then
        some { gone with registry := gone.registry.completeRequest id }
      else
        some gone
  | _ => none

def step (app : AppState) (state : FleetState) : Event → Option FleetState
  | .tick elapsed => some { state with clock := state.clock + elapsed }
  | .connect => some { state with tunnels := state.tunnels ++ [{}] }
  | .receive tunnel frame => stepReceive app state tunnel frame
  | .resume tunnel succeeds => stepResume state tunnel succeeds
  | .write tunnel succeeds => stepWrite state tunnel succeeds
  | .writerEnd tunnel => stepWriterEnd state tunnel
  | .finish tunnel => stepFinish state tunnel
  | .runTask task succeeds => stepRunTask state task succeeds
  | .request id body nodes => stepRequest app state id body nodes
  | .lookupSender id => stepLookupSender state id
  | .registerRequest id => stepRegisterRequest state id
  | .send id => stepSend state id
  | .recv id => stepRecv state id
  | .disconnect id => stepDisconnect state id

def fleetManager (app : AppState) : Machine FleetState Event where
  init := { db := { sqlite := app.sqlite } }
  step := step app

/-- The Fleet Manager started on a database that already has rows. -/
def fleetManagerOn (app : AppState) (base : Db) : Machine FleetState Event where
  init := { db := base }
  step := step app

def bareApp : AppState where
  catalog := ⟨[]⟩

def plainRegister (nodeId : NodeId) : Register where
  nodeId
  hostname := "host"
  os := .linux
  gpu := { vendor := .nvidia, name := "gpu", vramMb := 24576 }
  limits := { gpuPowerPct := 100, memoryLimitMb := 24576 }
  selectedModels := []

def idleMetrics : Metrics where
  vramUsedMb := 0
  vramTotalMb := 24576
  gpuUtilPct := 0
  tps := 0
  latencyMs := 0
  inFlight := 0

def readyNode (nodeId : NodeId) (tx : TunnelId) : NodeState where
  nodeId
  register := plainRegister nodeId
  metrics := some idleMetrics
  readyModels := ["m"]
  scheduleState := .awake
  tx

/-- Tunnel 0 registers a ready node, to which a streaming request `r` for the
model `m` is dispatched. -/
def dispatchEvents (nodeId : NodeId) : List Event :=
  [.connect, .receive 0 (.text (.register (plainRegister nodeId))),
    .receive 0 (.text (.modelStatus ⟨nodeId, ["m"]⟩)),
    .receive 0 (.text (.heartbeat ⟨nodeId, idleMetrics, .awake⟩)),
    .request "r" (.object [("model", .string "m"), ("stream", .bool true)])
      [readyNode nodeId 0],
    .lookupSender "r", .registerRequest "r", .send "r"]

end JwSwarm.FleetManager
