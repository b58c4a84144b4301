import Mathlib.Data.List.AList

namespace JwSwarm.Data

/-! Association lists with values of one type: lookups as conditionals. -/

universe u v

variable {Key : Type u} {Value : Type v} [DecidableEq Key]

theorem lookup_insert_apply (map : AList fun _ : Key => Value)
    (key other : Key) (value : Value) :
    (map.insert key value).lookup other =
      if other = key then some value else map.lookup other := by
  by_cases same : other = key
  · subst same
    simp
  · rw [if_neg same, AList.lookup_insert_ne same]

theorem lookup_erase_apply (map : AList fun _ : Key => Value)
    (key other : Key) :
    (map.erase key).lookup other =
      if other = key then none else map.lookup other := by
  by_cases same : other = key
  · subst same
    simp
  · rw [if_neg same, AList.lookup_erase_ne same]

section InsertAll

universe w

variable {Entry : Type w} {key : Entry → Key} {value : Entry → Value}
variable {entries : List Entry} {entry : Entry}

def insertAll (key : Entry → Key) (value : Entry → Value)
    (map : AList fun _ : Key => Value) (entries : List Entry) :
    AList fun _ : Key => Value :=
  entries.foldl (fun map entry => map.insert (key entry) (value entry)) map

private theorem lookup_insertAll_of_notMem {map : AList fun _ : Key => Value}
    {other : Key} (absent : other ∉ entries.map key) :
    (insertAll key value map entries).lookup other = map.lookup other := by
  induction entries generalizing map with
  | nil => rfl
  | cons entry entries ih =>
      rw [List.map_cons, List.mem_cons, not_or] at absent
      exact (ih absent.2).trans (AList.lookup_insert_ne absent.1)

theorem lookup_insertAll_of_mem {map : AList fun _ : Key => Value}
    (distinct : (entries.map key).Nodup) (member : entry ∈ entries) :
    (insertAll key value map entries).lookup (key entry) =
      some (value entry) := by
  induction entries generalizing map with
  | nil => cases member
  | cons first entries ih =>
      rw [List.map_cons, List.nodup_cons] at distinct
      cases member with
      | head =>
          exact (lookup_insertAll_of_notMem distinct.1).trans
            (AList.lookup_insert map)
      | tail _ member => exact ih distinct.2 member

end InsertAll

end JwSwarm.Data
