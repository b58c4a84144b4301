import Mathlib.Data.List.Basic

namespace JwSwarm.Data

universe u

/-- The last list is made of the other two, each in its own order. -/
inductive Interleaved {α : Type u} : List α → List α → List α → Prop
  | nil : Interleaved [] [] []
  | left {first second whole : List α} (item : α)
      (before : Interleaved first second whole) :
      Interleaved (first ++ [item]) second (whole ++ [item])
  | right {first second whole : List α} (item : α)
      (before : Interleaved first second whole) :
      Interleaved first (second ++ [item]) (whole ++ [item])

namespace Interleaved

variable {α : Type u} {first second whole : List α}

theorem filter_left {keep : α → Bool}
    (woven : Interleaved first second whole)
    (dropped : ∀ item ∈ second, keep item = false) :
    whole.filter keep = first.filter keep := by
  induction woven with
  | nil => rfl
  | left item before ih =>
      rw [List.filter_append, List.filter_append, ih dropped]
  | right item before ih =>
      have own : keep item = false := dropped item (by simp)
      rw [List.filter_append, List.filter_cons_of_neg (by simp [own]),
        List.filter_nil, List.append_nil]
      exact ih fun other member => dropped other (List.mem_append_left _ member)

theorem symm (woven : Interleaved first second whole) :
    Interleaved second first whole := by
  induction woven with
  | nil => exact .nil
  | left item before ih => exact ih.right item
  | right item before ih => exact ih.left item

end Interleaved

end JwSwarm.Data
