import Mathlib.Algebra.Order.Field.Basic
import Mathlib.Data.Nat.Cast.Order.Ring
import Mathlib.Tactic.Linarith
import Mathlib.Tactic.NormNum
import JwSwarm.FleetManager.Router
import JwSwarm.Proto.RoundTrip

namespace JwSwarm.FleetManager

open Proto

namespace Router

/-! The node that is picked has the greatest score. -/

section Greatest

variable {α : Type} {weight : α → WithBot ℚ} {candidates : List α} {best : α}

private theorem le_foldl_best (rest : List α) (first : α) :
    let best := rest.foldl
      (fun best next => if weight next < weight best then best else next) first
    weight first ≤ weight best ∧
      ∀ other ∈ rest, weight other ≤ weight best := by
  induction rest generalizing first with
  | nil => exact ⟨le_rfl, nofun⟩
  | cons next rest ih =>
      rw [List.foldl_cons]
      split
      · next less =>
          obtain ⟨first, others⟩ := ih first
          refine ⟨first, fun other member => ?_⟩
          rcases List.mem_cons.mp member with rfl | member
          · exact less.le.trans first
          · exact others other member
      · next least =>
          obtain ⟨latest, others⟩ := ih next
          refine ⟨(not_lt.mp least).trans latest, fun other member => ?_⟩
          rcases List.mem_cons.mp member with rfl | member
          · exact latest
          · exact others other member

private theorem le_maxBy (chosen : maxBy weight candidates = some best) :
    ∀ other ∈ candidates, weight other ≤ weight best := by
  cases candidates with
  | nil => cases chosen
  | cons first rest =>
      obtain rfl := Option.some.inj chosen
      obtain ⟨first, others⟩ := le_foldl_best rest first
      intro other member
      rcases List.mem_cons.mp member with rfl | member
      · exact first
      · exact others other member

end Greatest

def Eligible (model : ModelId) (node : NodeState) : Prop :=
  node.scheduleState = .awake ∧ model ∈ node.readyModels

/-- A node that no eligible one outranks; it has no metrics only if none has. -/
structure Best (nodes : List NodeState) (model : ModelId) (weights : Weights)
    (node : NodeState) : Prop where
  member : node ∈ nodes
  eligible : Eligible model node
  greatest : ∀ other ∈ nodes, Eligible model other →
    score other weights ≤ score node weights
  measured : node.metrics = none → ∀ other ∈ nodes, Eligible model other →
    other.metrics = none

variable {nodes permuted : List NodeState} {model : ModelId}
variable {weights : Weights} {node other : NodeState}

theorem eligible_iff : Eligible model node ↔
    (node.scheduleState == .awake && node.canServe model) = true := by
  simp [Eligible, NodeState.canServe]

private theorem metrics_eq_none_of_le
    (le : score other weights ≤ score node weights)
    (unmeasured : node.metrics = none) : other.metrics = none := by
  have bottom : score node weights = ⊥ := by simp [score, unmeasured]
  rw [bottom, le_bot_iff] at le
  cases metrics : other.metrics with
  | none => rfl
  | some values => simp [score, metrics] at le

theorem exists_best {nodeId : NodeId}
    (picked : pickNode nodes model weights = some nodeId) :
    ∃ node, Best nodes model weights node ∧ node.nodeId = nodeId := by
  obtain ⟨node, chosen, same⟩ := Option.map_eq_some_iff.mp picked
  obtain ⟨inside, eligible⟩ := List.mem_filter.mp (maxBy_mem chosen)
  have greatest : ∀ other ∈ nodes, Eligible model other →
      score other weights ≤ score node weights := by
    intro other member eligible
    exact le_maxBy chosen other
      (List.mem_filter.mpr ⟨member, eligible_iff.mp eligible⟩)
  exact ⟨node, ⟨inside, eligible_iff.mpr eligible, greatest,
    fun unmeasured other member eligible =>
      metrics_eq_none_of_le (greatest other member eligible) unmeasured⟩, same⟩

theorem pickNode_eq_none : pickNode nodes model weights = none ↔
    ∀ node ∈ nodes, ¬ Eligible model node := by
  have awake : (∃ node ∈ nodes, node.canServe model = true) ↔
      ∃ node ∈ nodes, Eligible model node := by
    simp [Eligible, NodeState.canServe]
  rw [← Option.not_isSome_iff_eq_none, isSome_pickNode, awake]
  simp only [not_exists, not_and]

private theorem Best.score_eq (best : Best nodes model weights node)
    (same : permuted.Perm nodes) (later : Best permuted model weights other) :
    score other weights = score node weights :=
  le_antisymm
    (best.greatest other (same.mem_iff.mp later.member) later.eligible)
    (later.greatest node (same.mem_iff.mpr best.member) best.eligible)

/-- `pick_node` is an argmax: it finds no node only if none is eligible, else a
best one, and another order of the nodes can only give one of equal score. -/
theorem pickNode_argmax (nodes : List NodeState) (model : ModelId)
    (weights : Weights) :
    (pickNode nodes model weights = none ↔
      ∀ node ∈ nodes, ¬ Eligible model node) ∧
    (∀ nodeId, pickNode nodes model weights = some nodeId →
      ∃ node, Best nodes model weights node ∧ node.nodeId = nodeId) ∧
    ∀ permuted : List NodeState, permuted.Perm nodes →
      (pickNode nodes model weights = none ∧
        pickNode permuted model weights = none) ∨
      ∃ node other, Best nodes model weights node ∧
        Best permuted model weights other ∧
        pickNode nodes model weights = some node.nodeId ∧
        pickNode permuted model weights = some other.nodeId ∧
        score other weights = score node weights := by
  refine ⟨pickNode_eq_none, fun nodeId => exists_best, ?_⟩
  intro permuted same
  cases picked : pickNode nodes model weights with
  | none =>
      left
      refine ⟨rfl, pickNode_eq_none.mpr fun node member => ?_⟩
      exact pickNode_eq_none.mp picked node (same.mem_iff.mp member)
  | some nodeId =>
      right
      obtain ⟨node, best, rfl⟩ := exists_best picked
      cases again : pickNode permuted model weights with
      | none =>
          have absent := pickNode_eq_none.mp again node
            (same.mem_iff.mpr best.member)
          exact absurd best.eligible absent
      | some otherId =>
          obtain ⟨other, later, rfl⟩ := exists_best again
          exact ⟨node, other, best, later, rfl, rfl,
            best.score_eq same later⟩

def vramTerm (metrics : Metrics) : ℚ :=
  if 0 < metrics.vramTotalMb.toNat then
    ((metrics.vramTotalMb.toNat - metrics.vramUsedMb.toNat : ℕ) : ℚ) /
      metrics.vramTotalMb.toNat
  else 0

def tpsTerm (metrics : Metrics) : ℚ := min (metrics.tps / 200) 1

def latencyTerm (metrics : Metrics) : ℚ := min (metrics.latencyMs / 1000) 1

def loadTerm (metrics : Metrics) : ℚ :=
  min ((metrics.inFlight.toNat : ℚ) / 8) 1

variable {metrics honest : Metrics}

theorem scoreMetrics_terms : scoreMetrics metrics weights =
    weights.vram * vramTerm metrics + weights.tps * tpsTerm metrics -
      weights.latency * latencyTerm metrics -
      weights.load * loadTerm metrics := rfl

theorem scoreMetrics_default : scoreMetrics metrics .default =
    vramTerm metrics + tpsTerm metrics - latencyTerm metrics -
      loadTerm metrics := by
  simp [scoreMetrics_terms, Weights.default]

/-- The ranges that the schema gives to the metrics. -/
structure InSchema (metrics : Metrics) : Prop where
  gpuUtilPct : 0 ≤ metrics.gpuUtilPct ∧ metrics.gpuUtilPct ≤ 100
  tps : 0 ≤ metrics.tps
  latencyMs : 0 ≤ metrics.latencyMs

def UnitRange (term : ℚ) : Prop := 0 ≤ term ∧ term ≤ 1

/-- The terms and the score are in range, and metrics within the schema can
match the score. -/
structure InRange (metrics : Metrics) : Prop where
  vram : UnitRange (vramTerm metrics)
  tps : UnitRange (tpsTerm metrics)
  latency : UnitRange (latencyTerm metrics)
  load : UnitRange (loadTerm metrics)
  score : -2 ≤ scoreMetrics metrics .default ∧
    scoreMetrics metrics .default ≤ 2
  matched : ∃ honest, InSchema honest ∧
    scoreMetrics metrics .default ≤ scoreMetrics honest .default

private theorem unit_vramTerm : UnitRange (vramTerm metrics) := by
  unfold vramTerm
  split
  · next positive =>
      have total : (0 : ℚ) < metrics.vramTotalMb.toNat := by
        exact_mod_cast positive
      have free : ((metrics.vramTotalMb.toNat - metrics.vramUsedMb.toNat : ℕ)
          : ℚ) ≤ metrics.vramTotalMb.toNat := by
        exact_mod_cast Nat.sub_le _ _
      constructor
      · exact div_nonneg (Nat.cast_nonneg _) total.le
      · rwa [div_le_one total]
  · exact ⟨le_rfl, zero_le_one⟩

private theorem unit_loadTerm : UnitRange (loadTerm metrics) :=
  ⟨le_min (div_nonneg (Nat.cast_nonneg _) (by norm_num)) zero_le_one,
    min_le_right _ _⟩

theorem unit_min_div_iff {value ceiling : ℚ} (positive : 0 < ceiling) :
    UnitRange (min (value / ceiling) 1) ↔ 0 ≤ value := by
  constructor
  · rintro ⟨low, -⟩
    have quotient := low.trans (min_le_left _ _)
    rwa [le_div_iff₀ positive, zero_mul] at quotient
  · intro nonneg
    exact ⟨le_min (div_nonneg nonneg positive.le) zero_le_one,
      min_le_right _ _⟩

/-- An idle node with free memory, no latency and the reference throughput. -/
def ideal : Metrics where
  vramUsedMb := 0
  vramTotalMb := 1
  gpuUtilPct := 0
  tps := 200
  latencyMs := 0
  inFlight := 0

private theorem ideal_inSchema : InSchema ideal where
  gpuUtilPct := ⟨le_rfl, by norm_num [ideal]⟩
  tps := by norm_num [ideal]
  latencyMs := le_rfl

private theorem scoreMetrics_ideal : scoreMetrics ideal .default = 2 := by
  have total : UInt64.toNat 1 = 1 := rfl
  rw [scoreMetrics_default]
  norm_num [vramTerm, tpsTerm, latencyTerm, loadTerm, ideal, total]

/-- The score is in range exactly for a throughput and a latency that are not
negative, which `from_json` does not check. -/
theorem inRange_iff (metrics : Metrics) :
    InRange metrics ↔ 0 ≤ metrics.tps ∧ 0 ≤ metrics.latencyMs := by
  have tps : UnitRange (tpsTerm metrics) ↔ 0 ≤ metrics.tps :=
    unit_min_div_iff (by norm_num)
  have latency : UnitRange (latencyTerm metrics) ↔ 0 ≤ metrics.latencyMs :=
    unit_min_div_iff (by norm_num)
  rw [← tps, ← latency]
  constructor
  · intro inRange
    exact ⟨inRange.tps, inRange.latency⟩
  · rintro ⟨tps, latency⟩
    have vram : UnitRange (vramTerm metrics) := unit_vramTerm
    have load : UnitRange (loadTerm metrics) := unit_loadTerm
    have score : -2 ≤ scoreMetrics metrics .default ∧
        scoreMetrics metrics .default ≤ 2 := by
      obtain ⟨vramLow, vramHigh⟩ := vram
      obtain ⟨tpsLow, tpsHigh⟩ := tps
      obtain ⟨latencyLow, latencyHigh⟩ := latency
      obtain ⟨loadLow, loadHigh⟩ := load
      rw [scoreMetrics_default]
      constructor
      · linarith
      · linarith
    refine ⟨vram, tps, latency, load, score, ideal, ideal_inSchema, ?_⟩
    rw [scoreMetrics_ideal]
    exact score.2

def eager : Metrics := { ideal with latencyMs := -1000 }

def eagerHeartbeat : Message :=
  .heartbeat { nodeId := "node", metrics := eager, scheduleState := .awake }

/-- A heartbeat with a negative latency is decoded, and outranks every node
within the schema. -/
theorem negative_latency_outranks :
    Wire.fromDocument (Wire.toDocument eagerHeartbeat) =
        some eagerHeartbeat ∧
      ¬ InRange eager ∧ 2 < scoreMetrics eager .default := by
  have total : UInt64.toNat 1 = 1 := rfl
  have large : 2 < scoreMetrics eager .default := by
    rw [scoreMetrics_default]
    norm_num [vramTerm, tpsTerm, latencyTerm, loadTerm, eager, ideal, total]
  have storable : Storable eagerHeartbeat := trivial
  exact ⟨(fromDocument_toDocument storable).trans (if_pos (by decide)),
    fun inRange => absurd inRange.score.2 (not_le.mpr large), large⟩

end Router

end JwSwarm.FleetManager
