import Mathlib.Algebra.Order.Field.Rat
import Mathlib.Order.WithBot
import JwSwarm.FleetManager.Registry

namespace JwSwarm.FleetManager

open Proto

/-! Node selection. Scores are exact; `⊥` is the score of a node without
metrics. -/

namespace Router

structure Weights where
  vram : ℚ
  tps : ℚ
  latency : ℚ
  load : ℚ

def Weights.default : Weights where
  vram := 1
  tps := 1
  latency := 1
  load := 1

def scoreMetrics (metrics : Metrics) (weights : Weights) : ℚ :=
  -- subtraction of naturals saturates like `saturating_sub`
  let freeVram : ℚ := (metrics.vramTotalMb.toNat - metrics.vramUsedMb.toNat : ℕ)
  let freeVramNorm : ℚ :=
    if 0 < metrics.vramTotalMb.toNat then
      freeVram / metrics.vramTotalMb.toNat
    else 0
  let tpsNorm := min (metrics.tps / 200) 1
  let latencyNorm := min (metrics.latencyMs / 1000) 1
  let loadNorm := min ((metrics.inFlight.toNat : ℚ) / 8) 1
  weights.vram * freeVramNorm + weights.tps * tpsNorm -
    weights.latency * latencyNorm - weights.load * loadNorm

def score (node : NodeState) (weights : Weights) : WithBot ℚ :=
  match node.metrics with
  | some metrics => scoreMetrics metrics weights
  | none => ⊥

/-- `Iterator::max_by`: of several greatest elements the last one wins. -/
def maxBy (weight : α → WithBot ℚ) : List α → Option α
  | [] => none
  | first :: rest =>
      some (rest.foldl
        (fun best next => if weight next < weight best then best else next)
        first)

def pickNode (nodes : List NodeState) (model : ModelId) (weights : Weights) :
    Option NodeId :=
  (maxBy (fun node => score node weights)
    (nodes.filter fun node =>
      node.scheduleState == .awake && node.canServe model)).map
    NodeState.nodeId

theorem maxBy_mem {weight : α → WithBot ℚ} {candidates : List α} {best : α}
    (chosen : maxBy weight candidates = some best) : best ∈ candidates := by
  cases candidates with
  | nil => cases chosen
  | cons first rest =>
      obtain rfl := Option.some.inj chosen
      induction rest generalizing first with
      | nil => exact List.mem_singleton.mpr rfl
      | cons next rest ih =>
          rw [List.foldl_cons]
          split
          · have inside := ih first rfl
            rcases List.mem_cons.mp inside with here | later
            · exact List.mem_cons.mpr (.inl here)
            · exact List.mem_cons_of_mem _ (List.mem_cons_of_mem _ later)
          · exact List.mem_cons_of_mem _ (ih next rfl)

private theorem isSome_maxBy {weight : α → WithBot ℚ} {candidates : List α} :
    (maxBy weight candidates).isSome = true ↔ candidates ≠ [] := by
  cases candidates with
  | nil => simp [maxBy]
  | cons first rest => simp [maxBy]

variable {nodes : List NodeState} {model : ModelId} {weights : Weights}

theorem pickNode_cases {nodeId : NodeId}
    (picked : pickNode nodes model weights = some nodeId) :
    ∃ node ∈ nodes, node.nodeId = nodeId ∧ node.canServe model = true := by
  obtain ⟨node, chosen, same⟩ := Option.map_eq_some_iff.mp picked
  obtain ⟨inside, serves⟩ := List.mem_filter.mp (maxBy_mem chosen)
  exact ⟨node, inside, same, ((Bool.and_eq_true _ _).mp serves).2⟩

/-- A node is picked whenever one is awake with the model ready: `canServe`
already asks for `awake`. -/
theorem isSome_pickNode :
    (pickNode nodes model weights).isSome = true ↔
      ∃ node ∈ nodes, node.canServe model = true := by
  rw [pickNode, Option.isSome_map, isSome_maxBy, Ne,
    List.filter_eq_nil_iff]
  constructor
  · intro occupied
    by_contra none
    refine occupied fun node inside serves => none ⟨node, inside, ?_⟩
    exact ((Bool.and_eq_true _ _).mp serves).2
  · rintro ⟨node, inside, serves⟩ empty
    refine empty node inside ((Bool.and_eq_true _ _).mpr ⟨?_, serves⟩)
    exact ((Bool.and_eq_true _ _).mp serves).1

end Router

end JwSwarm.FleetManager
