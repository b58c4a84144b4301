import Mathlib.Data.List.Sort
import Mathlib.Data.List.Nodup

namespace JwSwarm.Data

universe u

/-! The keys of a hash table: a list without duplicates, read in sorted order. -/

structure KeySet (α : Type u) where
  keys : List α
  nodup : keys.Nodup

namespace KeySet

variable {α : Type u}

def empty : KeySet α where
  keys := []
  nodup := List.nodup_nil

instance : EmptyCollection (KeySet α) := ⟨empty⟩

instance : Membership α (KeySet α) := ⟨fun set key => key ∈ set.keys⟩

instance [DecidableEq α] (set : KeySet α) (key : α) : Decidable (key ∈ set) :=
  inferInstanceAs (Decidable (key ∈ set.keys))

variable [DecidableEq α]

def insert (set : KeySet α) (key : α) : KeySet α where
  keys := set.keys.insert key
  nodup := set.nodup.insert

def erase (set : KeySet α) (key : α) : KeySet α where
  keys := set.keys.erase key
  nodup := set.nodup.erase key

def sorted [LinearOrder α] (set : KeySet α) : List α :=
  set.keys.insertionSort (· ≤ ·)

end KeySet

end JwSwarm.Data
