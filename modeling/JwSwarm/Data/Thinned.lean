import Mathlib.Data.List.Basic

namespace JwSwarm.Data

universe u v

/-- The first list is the second with so many items left out. -/
structure Thinned {α : Type u} (kept whole : List α) (lost : ℕ) : Prop where
  ordered : List.Sublist kept whole
  counted : kept.length + lost = whole.length

namespace Thinned

variable {α : Type u} {κ : Type v} {kept whole before after : List α}
variable {item : α} {lost : ℕ}

theorem refl (whole : List α) : Thinned whole whole 0 :=
  ⟨List.Sublist.refl whole, rfl⟩

theorem concat (thinned : Thinned kept whole lost) (item : α) :
    Thinned (kept ++ [item]) (whole ++ [item]) lost := by
  constructor
  · exact thinned.ordered.append_right [item]
  · have counted := thinned.counted
    rw [List.length_append, List.length_append]
    omega

theorem lose (thinned : Thinned (before ++ item :: after) whole lost) :
    Thinned (before ++ after) whole (lost + 1) := by
  constructor
  · apply List.Sublist.trans _ thinned.ordered
    exact (List.sublist_cons_self item after).append_left before
  · have counted := thinned.counted
    rw [List.length_append, List.length_cons] at counted
    rw [List.length_append]
    omega

theorem grow (thinned : Thinned kept whole lost) (more : List α) :
    Thinned kept (whole ++ more) (lost + more.length) := by
  constructor
  · exact thinned.ordered.trans (List.sublist_append_left whole more)
  · have counted := thinned.counted
    rw [List.length_append]
    omega

theorem loseAll (thinned : Thinned (before ++ after) whole lost) :
    Thinned before whole (lost + after.length) := by
  constructor
  · exact (List.sublist_append_left before after).trans thinned.ordered
  · have counted := thinned.counted
    rw [List.length_append] at counted
    omega

/-- Each item that is left out spoils what belongs to its key, and nothing else
does. -/
theorem exists_spoiled [DecidableEq κ] (thinned : Thinned kept whole lost)
    (key : α → Option κ) :
    ∃ spoiled : List κ, spoiled.length ≤ lost ∧ ∀ id, id ∉ spoiled →
      (kept.filter fun item => key item == some id) =
        whole.filter fun item => key item == some id := by
  obtain ⟨ordered, counted⟩ := thinned
  induction ordered generalizing lost with
  | slnil => exact ⟨[], Nat.zero_le lost, fun _ _ => rfl⟩
  | @cons kept whole item ordered ih =>
      have shorter := ordered.length_le
      rw [List.length_cons] at counted
      obtain ⟨spoiled, few, same⟩ := @ih (lost - 1) (by omega)
      refine ⟨(key item).toList ++ spoiled, ?_, ?_⟩
      · rw [List.length_append]
        cases key item with
        | none => exact Nat.le_trans (by simpa using few) (Nat.sub_le _ _)
        | some id =>
            simp only [Option.toList_some, List.length_singleton]
            omega
      · intro id clean
        rw [List.mem_append, not_or] at clean
        have other : (key item == some id) = false := by
          apply beq_false_of_ne
          intro own
          exact clean.1 (Option.mem_toList.mpr own)
        rw [List.filter_cons_of_neg (by simp [other]), same id clean.2]
  | @cons_cons kept whole item ordered ih =>
      rw [List.length_cons, List.length_cons] at counted
      obtain ⟨spoiled, few, same⟩ := @ih lost (by omega)
      refine ⟨spoiled, few, ?_⟩
      intro id clean
      rw [List.filter_cons, List.filter_cons, same id clean]

end Thinned

end JwSwarm.Data
