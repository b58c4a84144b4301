import Mathlib.Algebra.BigOperators.Group.List.Basic
import Mathlib.Data.List.Perm.Basic
import Mathlib.Tactic.Abel

namespace JwSwarm.Data

/-! Overwriting one position of a list, seen through an observation of the
elements or as a bag of all their members. -/

universe u v

variable {α : Type u} {β : Type v} {values : List α} {index : ℕ}
variable {old new : α}

theorem map_set_of_eq (observe : α → β) (found : values[index]? = some old)
    (same : observe new = observe old) :
    (values.set index new).map observe = values.map observe := by
  apply List.ext_getElem?
  intro position
  rw [List.getElem?_map, List.getElem?_map, List.getElem?_set]
  by_cases here : index = position
  · subst here
    obtain ⟨inside, rfl⟩ := List.getElem?_eq_some_iff.mp found
    simp [inside, same]
  · simp [here]

theorem exists_split (found : values[index]? = some old) :
    ∃ earlier later, values = earlier ++ old :: later ∧
      ∀ new, values.set index new = earlier ++ new :: later := by
  obtain ⟨inside, rfl⟩ := List.getElem?_eq_some_iff.mp found
  refine ⟨values.take index, values.drop (index + 1), ?_, ?_⟩
  · rw [List.getElem_cons_drop, List.take_append_drop]
  · intro new
    rw [List.set_eq_take_append_cons_drop, if_pos inside]

theorem mem_filterMap_concat {read : α → Option β} {item : β}
    (member : item ∈ values.filterMap read) :
    item ∈ (values ++ [new]).filterMap read := by
  rw [List.filterMap_append]
  exact List.mem_append_left _ member

theorem flatten_perm_set {bags : List (List α)} {first : α} {rest : List α}
    (found : bags[index]? = some (first :: rest)) :
    bags.flatten.Perm (first :: (bags.set index rest).flatten) := by
  induction bags generalizing index with
  | nil => simp at found
  | cons head tail ih =>
      cases index with
      | zero =>
          obtain rfl : head = first :: rest := by simpa using found
          simp
      | succ index =>
          have tailFound : tail[index]? = some (first :: rest) := by
            simpa using found
          have tailPerm := ih tailFound
          have moved := (tailPerm.append_left head).trans List.perm_middle
          simpa using moved

theorem countP_set_add (holds : α → Bool)
    (found : values[index]? = some old) :
    (values.set index new).countP holds + (if holds old then 1 else 0) =
      values.countP holds + if holds new then 1 else 0 := by
  induction values generalizing index with
  | nil => simp at found
  | cons head tail ih =>
      cases index with
      | zero =>
          obtain rfl : head = old := by simpa using found
          simp only [List.set_cons_zero, List.countP_cons]
          omega
      | succ index =>
          have tailFound : tail[index]? = some old := by simpa using found
          have moved := ih tailFound
          simp only [List.set_cons_succ, List.countP_cons]
          omega

theorem sum_map_set_add {γ : Type v} [AddCommMonoid γ] (weight : α → γ)
    (found : values[index]? = some old) :
    ((values.set index new).map weight).sum + weight old =
      (values.map weight).sum + weight new := by
  induction values generalizing index with
  | nil => simp at found
  | cons head tail ih =>
      cases index with
      | zero =>
          obtain rfl : head = old := by simpa using found
          simp only [List.set_cons_zero, List.map_cons, List.sum_cons]
          abel
      | succ index =>
          have tailFound : tail[index]? = some old := by simpa using found
          have moved := ih tailFound
          rw [List.set_cons_succ, List.map_cons, List.sum_cons, List.map_cons,
            List.sum_cons, add_assoc, moved, ← add_assoc]

end JwSwarm.Data
