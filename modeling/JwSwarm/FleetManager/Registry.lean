import JwSwarm.Data.AssocMap
import JwSwarm.Data.Destutter
import JwSwarm.Proto.Message

namespace JwSwarm.FleetManager

open Data Proto

/-! The in-memory registry of connected nodes and in-flight requests. Every
operation takes the lock once, so each one is a single step. -/

/-- A tunnel task, and with it the sender of its outbound channel. -/
abbrev TunnelId := ℕ

inductive RequestEvent where
  | chunk (payload : TokenChunk)
  | done (payload : Done)
  | error (payload : ProtoError)
  deriving DecidableEq

def RequestEvent.isTerminal : RequestEvent → Bool
  | .chunk _ => false
  | .done _ => true
  | .error _ => true

structure NodeState where
  nodeId : NodeId
  register : Register
  metrics : Option Metrics
  readyModels : List ModelId
  scheduleState : ScheduleStateValue
  tx : TunnelId
  deriving DecidableEq

def NodeState.canServe (node : NodeState) (model : ModelId) : Bool :=
  node.scheduleState == .awake && node.readyModels.any (· == model)

/-- `tx` is the event channel of the chat call that drew this request id. -/
structure PendingMeta where
  tx : RequestId
  model : ModelId
  nodeId : NodeId
  deriving DecidableEq

structure Registry where
  nodes : AList fun _ : NodeId => NodeState := ∅
  pending : AList fun _ : RequestId => PendingMeta := ∅

namespace Registry

def upsertNode (registry : Registry) (register : Register) (tx : TunnelId) :
    Registry :=
  { registry with
    nodes := registry.nodes.insert register.nodeId {
      nodeId := register.nodeId
      register
      metrics := none
      readyModels := []
      scheduleState := .asleep
      tx } }

def removeNode (registry : Registry) (nodeId : NodeId) : Registry :=
  { registry with nodes := registry.nodes.erase nodeId }

/-- `get_mut` followed by an assignment; an absent node is left absent. -/
def modifyNode (registry : Registry) (nodeId : NodeId)
    (change : NodeState → NodeState) : Registry :=
  match registry.nodes.lookup nodeId with
  | some node =>
      { registry with nodes := registry.nodes.insert nodeId (change node) }
  | none => registry

def updateMetrics (registry : Registry) (nodeId : NodeId) (metrics : Metrics)
    (state : ScheduleStateValue) : Registry :=
  registry.modifyNode nodeId fun node =>
    { node with metrics := some metrics, scheduleState := state }

def updateReadyModels (registry : Registry) (nodeId : NodeId)
    (readyModels : List ModelId) : Registry :=
  registry.modifyNode nodeId fun node => { node with readyModels }

def updateSchedule (registry : Registry) (nodeId : NodeId)
    (state : ScheduleStateValue) : Registry :=
  registry.modifyNode nodeId fun node => { node with scheduleState := state }

def snapshot (registry : Registry) : List NodeState :=
  registry.nodes.entries.map Sigma.snd

/-- `sort` and `dedup` of the ready models of the awake nodes. -/
def availableModels (registry : Registry) : List ModelId :=
  (((registry.snapshot.filter fun node => node.scheduleState == .awake).flatMap
    NodeState.readyModels).insertionSort (· ≤ ·)).destutter (· ≠ ·)

def nodeSender (registry : Registry) (nodeId : NodeId) : Option TunnelId :=
  (registry.nodes.lookup nodeId).map NodeState.tx

def nodeVendor (registry : Registry) (nodeId : NodeId) : Option GpuVendor :=
  (registry.nodes.lookup nodeId).map fun node => node.register.gpu.vendor

def registerRequest (registry : Registry) (requestId : RequestId)
    (model : ModelId) (nodeId : NodeId) (tx : RequestId) : Registry :=
  { registry with
    pending := registry.pending.insert requestId { tx, model, nodeId } }

def completeRequest (registry : Registry) (requestId : RequestId) : Registry :=
  { registry with pending := registry.pending.erase requestId }

def getPending (registry : Registry) (requestId : RequestId) :
    Option PendingMeta :=
  registry.pending.lookup requestId

/-- The channel the event is sent on, when the request is pending. -/
def dispatchEvent (registry : Registry) (requestId : RequestId)
    (event : RequestEvent) : Option (RequestId × RequestEvent) :=
  (registry.pending.lookup requestId).map fun entry => (entry.tx, event)

theorem lookup_modifyNode (registry : Registry) (nodeId other : NodeId)
    (change : NodeState → NodeState) :
    (registry.modifyNode nodeId change).nodes.lookup other =
      if other = nodeId then (registry.nodes.lookup other).map change
      else registry.nodes.lookup other := by
  unfold modifyNode
  cases found : registry.nodes.lookup nodeId with
  | none =>
      by_cases same : other = nodeId
      · subst same
        simp [found]
      · simp [same]
  | some node =>
      by_cases same : other = nodeId
      · subst same
        simp [found]
      · simp [same]

theorem lookup_upsertNode (registry : Registry) (register : Register)
    (tx : TunnelId) (other : NodeId) :
    (registry.upsertNode register tx).nodes.lookup other =
      if other = register.nodeId then
        some {
          nodeId := register.nodeId
          register
          metrics := none
          readyModels := []
          scheduleState := .asleep
          tx }
      else registry.nodes.lookup other :=
  lookup_insert_apply _ _ _ _

theorem lookup_removeNode (registry : Registry) (nodeId other : NodeId) :
    (registry.removeNode nodeId).nodes.lookup other =
      if other = nodeId then none else registry.nodes.lookup other :=
  lookup_erase_apply _ _ _

theorem lookup_registerRequest (registry : Registry) (requestId : RequestId)
    (model : ModelId) (nodeId : NodeId) (tx other : RequestId) :
    (registry.registerRequest requestId model nodeId tx).pending.lookup other =
      if other = requestId then some { tx, model, nodeId }
      else registry.pending.lookup other :=
  lookup_insert_apply _ _ _ _

theorem lookup_completeRequest (registry : Registry)
    (requestId other : RequestId) :
    (registry.completeRequest requestId).pending.lookup other =
      if other = requestId then none else registry.pending.lookup other :=
  lookup_erase_apply _ _ _

@[simp] theorem pending_modifyNode (registry : Registry) (nodeId : NodeId)
    (change : NodeState → NodeState) :
    (registry.modifyNode nodeId change).pending = registry.pending := by
  unfold modifyNode
  split <;> rfl

theorem mem_snapshot_iff {registry : Registry} {node : NodeState} :
    node ∈ registry.snapshot ↔
      ∃ nodeId, registry.nodes.lookup nodeId = some node := by
  rw [snapshot, List.mem_map]
  constructor
  · rintro ⟨⟨nodeId, node⟩, inside, rfl⟩
    exact ⟨nodeId, AList.mem_lookup_iff.mpr inside⟩
  · rintro ⟨nodeId, found⟩
    exact ⟨⟨nodeId, node⟩, AList.mem_lookup_iff.mp found, rfl⟩

theorem mem_availableModels_iff {registry : Registry} {model : ModelId} :
    model ∈ registry.availableModels ↔
      ∃ node ∈ registry.snapshot, node.canServe model = true := by
  rw [availableModels, mem_destutter_ne_iff,
    (List.perm_insertionSort (· ≤ ·) _).mem_iff, List.mem_flatMap]
  apply exists_congr
  intro node
  rw [List.mem_filter, NodeState.canServe, Bool.and_eq_true, List.any_beq',
    List.contains_iff_mem, and_assoc]

def Keyed (registry : Registry) : Prop :=
  ∀ nodeId node, registry.nodes.lookup nodeId = some node →
    node.nodeId = nodeId

theorem Keyed.upsertNode {registry : Registry} (keyed : registry.Keyed)
    (register : Register) (tx : TunnelId) :
    (registry.upsertNode register tx).Keyed := by
  intro nodeId node found
  rw [lookup_upsertNode] at found
  split at found
  · next same =>
      obtain rfl := Option.some.inj found
      exact same.symm
  · exact keyed nodeId node found

theorem Keyed.removeNode {registry : Registry} (keyed : registry.Keyed)
    (other : NodeId) : (registry.removeNode other).Keyed := by
  intro nodeId node found
  rw [lookup_removeNode] at found
  split at found
  · cases found
  · exact keyed nodeId node found

theorem Keyed.modifyNode {registry : Registry} (keyed : registry.Keyed)
    (other : NodeId) {change : NodeState → NodeState}
    (same : ∀ node, (change node).nodeId = node.nodeId) :
    (registry.modifyNode other change).Keyed := by
  intro nodeId node found
  rw [lookup_modifyNode] at found
  split at found
  · obtain ⟨old, known, rfl⟩ := Option.map_eq_some_iff.mp found
    rw [same]
    exact keyed nodeId old known
  · exact keyed nodeId node found

end Registry

end JwSwarm.FleetManager
