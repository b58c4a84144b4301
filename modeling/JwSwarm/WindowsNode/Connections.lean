import JwSwarm.LinuxNode.TerminalFrames

namespace JwSwarm.WindowsNode

open Proto Transition Machine
open LinuxNode (frameId)

/-! `RunAsync` of the Windows tunnel client, from one connection to the next,
with the coordinator's handler of `ConnectionChanged`, the other threads that
queue messages, and `StopAsync`. The coordinator starts another client when
`StopAsync` has returned, as `ReconnectAsync` does. How a call on the socket
ends is part of the events, and so is what a sender reads of the node's
state. -/

/-- In `WaitToReadAsync`, at `TryRead`, in `SendAsync` (called with a token that
was still `live`, or not), and out of the loop with an exception. -/
inductive SendPump where
  | waiting
  | reading
  | sending (text : Message) (live : Bool)
  | ended

inductive ReceivePump where
  | receiving
  | ended (failed : Bool)
  deriving DecidableEq

/-- `cancelled` is the session's token, `completed` whether the task that
`WhenAny` returned has failed. -/
structure Session where
  sender : SendPump := .waiting
  receiver : ReceivePump := .receiving
  cancelled : Bool := false
  completed : Option Bool := none

inductive Notice where
  | register
  | catalogRequest
  | heartbeat
  | modelStatus
  | scheduleState
  deriving DecidableEq

abbrev OtherNotice := { notice : Notice // notice ≠ .register }

/-- Where `RunAsync` is; `greeting` is inside `ConnectionChanged(true)`, with
what its handler has still to send. -/
inductive RunPhase where
  | connecting
  | greeting (left : List Notice)
  | pumping (session : Session)
  | delaying
  | stopped

structure NodeConfig where
  nodeId : NodeId
  hostname : String
  limits : OwnerLimits
  vendor : GpuVendor
  gpuName : String

/-- What a sender reads of the node's state: `stale` is whether it read
`_tunnel` before that last changed. -/
structure Readings where
  selectedModels : List ModelId
  metrics : Metrics
  scheduleState : ScheduleStateValue
  readyModels : List ModelId
  stale : Bool := false

def NodeConfig.register (config : NodeConfig) (selectedModels : List ModelId) :
    Register where
  nodeId := config.nodeId
  hostname := config.hostname
  os := .windows
  gpu := {
    vendor := config.vendor
    name := config.gpuName
    vramMb := config.limits.memoryLimitMb }
  limits := config.limits
  selectedModels

def Notice.message (config : NodeConfig) (readings : Readings) :
    Notice → Message
  | .register => .register (config.register readings.selectedModels)
  | .catalogRequest => .catalogRequest
  | .heartbeat => .heartbeat {
      nodeId := config.nodeId
      metrics := readings.metrics
      scheduleState := readings.scheduleState }
  | .modelStatus => .modelStatus {
      nodeId := config.nodeId, readyModels := readings.readyModels }
  | .scheduleState => .scheduleState {
      nodeId := config.nodeId, state := readings.scheduleState }

/-- Whether the sender itself returns when the node is not connected. -/
def Notice.guarded : Notice → Bool
  | .register | .catalogRequest => false
  | .heartbeat | .modelStatus | .scheduleState => true

/-- `noticing` are the notices of other threads that are past the check of
`Connected`. `attached` is whether the coordinator's `_tunnel` is this client,
`cleared` whether it was ever cleared, `closed` whether the channel is
completed. The last four fields are logs: all that was ever queued, the texts
written on each connection, the latest first, the greetings of the latest that
found no tunnel, and what was left in a channel when it was completed. -/
structure TunnelClient where
  connected : Bool := false
  outbound : List Message := []
  noticing : List OtherNotice := []
  phase : RunPhase := .connecting
  backoffMs : ℕ := 1000
  cancelled : Bool := false
  attached : Bool := true
  cleared : Bool := false
  closed : Bool := false
  posted : List Message := []
  written : List (List Message) := []
  missed : List Notice := []
  abandoned : List Message := []

inductive TunnelEvent where
  | connect (succeeds : Bool)
  | greet (readings : Readings)
  | pump
  | check (notice : OtherNotice)
  | notify (index : ℕ) (readings : Readings)
  | reply (frame : Message) (stale : Bool)
  | read
  | take
  | write (succeeds : Bool)
  | interrupt
  | receiveEnd (failed : Bool)
  | kick
  | stop
  | cancel
  | dispose
  | start
  | complete (bySender : Bool)
  | disconnect
  | wake

def greetings : List Notice :=
  [.register, .catalogRequest, .heartbeat, .modelStatus]

namespace TunnelClient

def send (state : TunnelClient) (text : Message) : TunnelClient :=
  { state with
    outbound := state.outbound ++ [text]
    posted := state.posted ++ [text] }

/-- A sender finds the client, and its channel open. -/
def reaches (state : TunnelClient) (stale : Bool) : Bool :=
  state.attached != stale && !state.closed

/-- `_tunnel?.Send`. -/
def post (state : TunnelClient) (stale : Bool) (text : Message) :
    TunnelClient :=
  if state.reaches stale then state.send text else state

/-- The delay after a connection, or none once the run is cancelled. -/
def rest (state : TunnelClient) : TunnelClient :=
  { state with
    connected := false
    phase := if state.cancelled then .stopped else .delaying }

def pumps (state : TunnelClient) (session : Session) : TunnelClient :=
  { state with phase := .pumping session }

def log (state : TunnelClient) (text : Message) : TunnelClient :=
  match state.written with
  | [] => state
  | latest :: earlier =>
      { state with written := (latest ++ [text]) :: earlier }

def stepSession (state : TunnelClient) (session : Session) :
    TunnelEvent → Option TunnelClient
  | .read =>
      match session.sender, session.cancelled, state.outbound with
      | .waiting, false, _ :: _ =>
          some (state.pumps { session with sender := .reading })
      | _, _, _ => none
  | .take =>
      match session.sender, state.outbound with
      | .reading, text :: rest =>
          some { state with
            outbound := rest
            phase := .pumping { session with
              sender := .sending text !session.cancelled } }
      | .reading, [] => some (state.pumps { session with sender := .waiting })
      | _, _ => none
  | .write true =>
      match session.sender with
      | .sending text true =>
          some ((state.log text).pumps { session with sender := .reading })
      | _ => none
  | .write false =>
      match session.sender with
      | .sending _ _ => some (state.pumps { session with sender := .ended })
      | _ => none
  | .interrupt =>
      match session.sender, session.cancelled with
      | .waiting, true => some (state.pumps { session with sender := .ended })
      | _, _ => none
  | .receiveEnd failed =>
      match session.receiver with
      | .receiving =>
          some (state.pumps { session with receiver := .ended failed })
      | .ended _ => none
  | .kick => some (state.pumps { session with cancelled := true })
  | .complete bySender =>
      match session.completed, bySender, session.sender, session.receiver with
      | none, true, .ended, _ =>
          some (state.pumps { session with
            cancelled := true, completed := some true })
      | none, false, _, .ended failed =>
          some (state.pumps { session with
            cancelled := true, completed := some failed })
      | _, _, _, _ => none
  | .disconnect =>
      match session.completed, session.sender, session.receiver with
      | some failed, .ended, .ended _ =>
          -- only a session that ended without an exception resets the delay
          some { state with
            backoffMs := if failed then state.backoffMs else 1000 }.rest
      | _, _, _ => none
  | _ => none

/-- The source's token of a session is linked to the run's. -/
def cancel (state : TunnelClient) : TunnelClient :=
  match state.phase with
  | .pumping session =>
      { state with
        cancelled := true
        phase := .pumping { session with cancelled := true } }
  | _ => { state with cancelled := true }

def greet (config : NodeConfig) (state : TunnelClient) (notice : Notice)
    (left : List Notice) (readings : Readings) : TunnelClient :=
  let state := { state with phase := .greeting left }
  if notice.guarded && !state.connected then state
  else if state.reaches readings.stale then
    state.send (notice.message config readings)
  else { state with missed := state.missed ++ [notice] }

/-- `DisposeAsync`, and the last of `StopAsync`. -/
def dispose (state : TunnelClient) : TunnelClient :=
  { state with
    connected := false
    closed := true
    outbound := []
    abandoned := state.abandoned ++ state.outbound }

/-- Another client, with the logs of those before. -/
def renew (state : TunnelClient) : TunnelClient where
  noticing := state.noticing
  cleared := true
  posted := state.posted
  written := state.written
  abandoned := state.abandoned

def step (config : NodeConfig) (state : TunnelClient) :
    TunnelEvent → Option TunnelClient
  | .connect succeeds =>
      match state.phase with
      | .connecting =>
          some (if succeeds then { state with
            connected := true
            phase := .greeting greetings
            written := [] :: state.written
            missed := [] } else state.rest)
      | _ => none
  | .greet readings =>
      match state.phase with
      | .greeting (notice :: left) =>
          -- the handler runs in this client, after `_tunnel` was set to it
          if readings.stale && state.attached then none
          else some (greet config state notice left readings)
      | _ => none
  | .pump =>
      match state.phase with
      | .greeting [] => some (state.pumps { cancelled := state.cancelled })
      | _ => none
  | .check notice =>
      if state.connected then
        some { state with noticing := state.noticing ++ [notice] }
      else none
  | .notify index readings =>
      if readings.stale && !state.cleared then none
      else do
        let notice ← state.noticing[index]?
        some ({ state with noticing := state.noticing.eraseIdx index }.post
          readings.stale (notice.1.message config readings))
  | .reply frame stale =>
      if (frameId frame).isNone || stale && !state.cleared then none
      else some (state.post stale frame)
  | .stop =>
      if state.attached then
        some { state with attached := false, cleared := true }
      else none
  | .cancel => if state.attached then none else some state.cancel
  | .dispose =>
      match state.phase, state.closed with
      | .stopped, false => some state.dispose
      | _, _ => none
  | .start =>
      match state.phase, state.closed with
      | .stopped, true => some state.renew
      | _, _ => none
  | .wake =>
      match state.phase with
      | .delaying =>
          some (if state.cancelled then { state with phase := .stopped }
          else { state with
            phase := .connecting
            backoffMs := min 30000 (state.backoffMs * 2) })
      | _ => none
  | event =>
      match state.phase with
      | .pumping session => state.stepSession session event
      | _ => none

end TunnelClient

def TunnelEvent.fails : TunnelEvent → Bool
  | .write false => true
  | _ => false

/-- The frame about a request that the event queues. -/
def TunnelEvent.frame : TunnelEvent → Option Message
  | .reply frame _ => some frame
  | _ => none

def tunnelClient (config : NodeConfig) : Machine TunnelClient TunnelEvent where
  init := {}
  step := TunnelClient.step config

end JwSwarm.WindowsNode
