import JwSwarm.FleetManager.Steps

namespace JwSwarm.FleetManager

open Proto

/-! The Fleet Manager as one node meets it: the registry and the session of the
node's tunnel, changed by that tunnel's frames in their order. -/

structure Peer where
  registry : Registry := {}
  session : Option Session := none

namespace Peer

def process (app : AppState) (tunnel : TunnelId) (peer : Peer) (now : ℕ)
    (msg : Message) : Peer :=
  let outcome := handleMessage app peer.registry tunnel peer.session now msg
  { registry := outcome.registry, session := outcome.session }

def readyModels (peer : Peer) (nodeId : NodeId) : Option (List ModelId) :=
  (peer.registry.nodes.lookup nodeId).map NodeState.readyModels

end Peer

/-! What the frames say about one node's ready models: a `Register` clears them,
a `ModelStatus` replaces them, and nothing else speaks of them. -/

def hear (nodeId : NodeId) (ready : Option (List ModelId)) :
    Message → Option (List ModelId)
  | .register register => if register.nodeId = nodeId then some [] else ready
  | .modelStatus status =>
      if status.nodeId = nodeId then ready.map fun _ => status.readyModels
      else ready
  | _ => ready

/-- What the registry will hold when the frames under way are processed. -/
def outlook (nodeId : NodeId) (peer : Peer) (queue : List Message) :
    Option (List ModelId) :=
  queue.foldl (hear nodeId) (peer.readyModels nodeId)

def RequestEvent.toMessage : RequestEvent → Message
  | .chunk payload => .tokenChunk payload
  | .done payload => .done payload
  | .error payload => .error payload

variable {nodeId : NodeId} {ready : Option (List ModelId)}
variable {peer : Peer} {queue : List Message}

theorem isSome_hear (known : ready.isSome = true) (msg : Message) :
    (hear nodeId ready msg).isSome = true := by
  unfold hear
  split
  · split
    · rfl
    · exact known
  · split
    · rw [Option.isSome_map]
      exact known
    · exact known
  · exact known

theorem hear_modelStatus {status : ModelStatus} (known : ready.isSome = true)
    (own : status.nodeId = nodeId) :
    hear nodeId ready (.modelStatus status) = some status.readyModels := by
  obtain ⟨held, rfl⟩ := Option.isSome_iff_exists.mp known
  simp [hear, own]

theorem hear_toMessage (event : RequestEvent) :
    hear nodeId ready event.toMessage = ready := by
  cases event <;> rfl

theorem outlook_concat (msg : Message) :
    outlook nodeId peer (queue ++ [msg]) =
      hear nodeId (outlook nodeId peer queue) msg := by
  rw [outlook, List.foldl_append]
  rfl

theorem readyModels_modifyNode (registry : Registry) (other : NodeId)
    (change : NodeState → NodeState)
    (same : ∀ node, (change node).readyModels = node.readyModels) :
    ((registry.modifyNode other change).nodes.lookup nodeId).map
        NodeState.readyModels =
      (registry.nodes.lookup nodeId).map NodeState.readyModels := by
  rw [Registry.lookup_modifyNode]
  split
  · cases registry.nodes.lookup nodeId with
    | none => rfl
    | some node => exact congrArg some (same node)
  · rfl

private theorem readyModels_process (app : AppState) (tunnel : TunnelId)
    (peer : Peer) (now : ℕ) (msg : Message) :
    (peer.process app tunnel now msg).readyModels nodeId =
      hear nodeId (peer.readyModels nodeId) msg := by
  cases msg with
  | register register =>
      simp only [Peer.process, Peer.readyModels, handleMessage, handleRegister,
        hear, Registry.lookup_upsertNode]
      by_cases same : nodeId = register.nodeId
      · simp [same]
      · simp [same, Ne.symm same]
  | modelStatus status =>
      simp only [Peer.process, Peer.readyModels, handleMessage, hear,
        Registry.updateReadyModels, Registry.lookup_modifyNode]
      by_cases same : nodeId = status.nodeId
      · simp [same, Function.comp_def]
      · simp [same, Ne.symm same]
  | heartbeat heartbeat =>
      simp only [Peer.process, Peer.readyModels, handleMessage,
        registry_handleHeartbeat]
      exact readyModels_modifyNode _ _ _ fun _ => rfl
  | scheduleState schedule => exact readyModels_modifyNode _ _ _ fun _ => rfl
  | catalogRequest => rfl
  | tokenChunk chunk => rfl
  | done done => rfl
  | error error => rfl
  | catalogResponse response => rfl
  | promptDispatch prompt => rfl

theorem outlook_process (app : AppState) (tunnel : TunnelId) (now : ℕ)
    (msg : Message) :
    outlook nodeId (peer.process app tunnel now msg) queue =
      outlook nodeId peer (msg :: queue) := by
  rw [outlook, readyModels_process]
  rfl

end JwSwarm.FleetManager
