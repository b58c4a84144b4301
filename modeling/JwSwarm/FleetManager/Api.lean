import JwSwarm.FleetManager.Tunnel

namespace JwSwarm.FleetManager

open Proto

/-! The chat completions handler, cut at the points where other tasks can run:
the registry snapshot, the sender lookup, the registration of the request, the
send, and each event it receives. -/

inductive Response where
  | error (status : ℕ) (message : String)
  | completion (requestId : RequestId) (created : ℕ) (model : ModelId)
      (content : String) (usage : Usage)
  | sse

inductive CallPhase where
  | picked (nodeId : NodeId)
  | addressed (nodeId : NodeId) (sender : TunnelId)
  | registered (nodeId : NodeId) (sender : TunnelId)
  | awaiting (nodeId : NodeId) (sender : TunnelId)
  | returned (response : Response)
  | abandoned

/-- A handler together with its event channel: `inbox` holds the events sent
and not yet received, `received` those the response was built from. -/
structure ChatCall where
  model : ModelId
  stream : Bool
  payload : Json
  phase : CallPhase
  created : ℕ := 0
  inbox : List RequestEvent := []
  received : List RequestEvent := []

namespace ChatCall

/-- The receiver of the event channel exists from the registration of the
request until the handler or its response stream is gone. -/
def listening (call : ChatCall) : Bool :=
  match call.phase with
  | .registered _ _ => true
  | .awaiting _ _ => true
  | _ => false

/-- The tunnel whose sender the handler still owns a clone of. The streaming
handler has returned by the time its events arrive; the buffered one has not. -/
def heldSender (call : ChatCall) : Option TunnelId :=
  match call.phase with
  | .addressed _ sender => some sender
  | .registered _ sender => some sender
  | .awaiting _ sender => if call.stream then none else some sender
  | _ => none

def offer (call : ChatCall) (event : RequestEvent) : ChatCall :=
  if call.listening then { call with inbox := call.inbox ++ [event] } else call

end ChatCall

/-- `chat_completions` up to its node selection, on one registry snapshot. -/
def startCall (app : AppState) (nodes : List NodeState) (body : Json) :
    ChatCall :=
  match (body.get "model").bind Json.asStr with
  | none =>
      { model := ""
        stream := false
        payload := body
        phase := .returned (.error 400 "missing 'model' field") }
  | some model =>
      { model
        stream := ((body.get "stream").bind Json.asBool).getD false
        payload := body
        phase :=
          match Router.pickNode nodes model app.weights with
          | some nodeId => .picked nodeId
          | none => .returned
              (.error 503 ("no node available for model '" ++ model ++ "'")) }

structure ModelObject where
  id : ModelId
  object : String := "model"
  created : ℕ
  ownedBy : String := "jw-swarm"
  deriving DecidableEq

def listModels (app : AppState) (registry : Registry) (created : ℕ) :
    List ModelObject :=
  (app.catalog.aliases.filter registry.availableModels.contains).map
    fun id => { id, created }

structure BufferedExit where
  content : String
  usage : Usage
  errored : Option String

/-- `none` while the loop is still waiting for a terminal event. -/
def bufferedLoop (content : String) : List RequestEvent → Option BufferedExit
  | [] => none
  | .chunk chunk :: rest => bufferedLoop (content ++ chunk.delta) rest
  | .done done :: _ =>
      some { content, usage := done.usage, errored := none }
  | .error error :: _ =>
      some { content, usage := ⟨0, 0, 0⟩, errored := some error.message }

/-- The loop's exit when every sender of the channel is gone. -/
def bufferedClosed (received : List RequestEvent) : BufferedExit where
  content := received.foldl (fun content event =>
    match event with
    | .chunk chunk => content ++ chunk.delta
    | _ => content) ""
  usage := ⟨0, 0, 0⟩
  errored := none

theorem bufferedLoop_eq_none_iff {content : String}
    {events : List RequestEvent} :
    bufferedLoop content events = none ↔
      ∀ event ∈ events, event.isTerminal = false := by
  induction events generalizing content with
  | nil => simp [bufferedLoop]
  | cons event rest ih =>
      cases event with
      | chunk chunk => simp [bufferedLoop, ih, RequestEvent.isTerminal]
      | done done => simp [bufferedLoop, RequestEvent.isTerminal]
      | error error => simp [bufferedLoop, RequestEvent.isTerminal]

def respond (requestId : RequestId) (call : ChatCall) (exit : BufferedExit) :
    Response :=
  match exit.errored with
  | some message => .error 502 message
  | none =>
      .completion requestId call.created call.model exit.content exit.usage

inductive SseData where
  | chunk (requestId : RequestId) (created : ℕ) (model : ModelId)
      (delta : String) (finish : Option String)
  | error (message : String)
  | doneMarker

def eventsFor (requestId : RequestId) (call : ChatCall) :
    RequestEvent → List SseData
  | .chunk chunk =>
      [.chunk requestId call.created call.model chunk.delta none]
  | .done _ =>
      [.chunk requestId call.created call.model "" (some "stop"), .doneMarker]
  | .error error => [.error error.message, .doneMarker]

end JwSwarm.FleetManager
