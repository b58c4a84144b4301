import Mathlib.Data.List.Destutter
import Mathlib.Data.List.Sort

namespace JwSwarm.Data

universe u

/-! Dropping repeated neighbours from a list drops no element altogether. -/

variable {α : Type u} [DecidableEq α]

private theorem mem_destutter'_ne_iff {first key : α} {rest : List α} :
    key ∈ rest.destutter' (· ≠ ·) first ↔ key ∈ first :: rest := by
  induction rest generalizing first with
  | nil => rfl
  | cons next rest ih =>
      rw [List.destutter'_cons]
      split
      · rw [List.mem_cons, ih, ← List.mem_cons]
      · next same =>
          obtain rfl := not_not.mp same
          rw [ih]
          simp

theorem mem_destutter_ne_iff {key : α} {list : List α} :
    key ∈ list.destutter (· ≠ ·) ↔ key ∈ list := by
  cases list with
  | nil => rfl
  | cons first rest => exact mem_destutter'_ne_iff

end JwSwarm.Data
