import Mathlib.Data.List.Nodup
import Mathlib.Data.String.Basic
import JwSwarm.Proto.Json

namespace JwSwarm.Proto.Json

/-! How deep a document is nested, whether its keys are unique, and the map that
a parser stores an object in. -/

mutual
def depth : Json → ℕ
  | .array items => depthItems items + 1
  | .object fields => depthFields fields + 1
  | _ => 0
termination_by structural document => document

def depthItems : List Json → ℕ
  | [] => 0
  | item :: items => max (depth item) (depthItems items)
termination_by structural items => items

def depthFields : List (String × Json) → ℕ
  | [] => 0
  | field :: fields => max (depthField field) (depthFields fields)
termination_by structural fields => fields

def depthField : String × Json → ℕ
  | (_, document) => depth document
termination_by structural field => field
end

mutual
def Unique : Json → Prop
  | .array items => UniqueItems items
  | .object fields => (fields.map Prod.fst).Nodup ∧ UniqueFields fields
  | _ => True
termination_by structural document => document

def UniqueItems : List Json → Prop
  | [] => True
  | item :: items => Unique item ∧ UniqueItems items
termination_by structural items => items

def UniqueFields : List (String × Json) → Prop
  | [] => True
  | field :: fields => UniqueField field ∧ UniqueFields fields
termination_by structural fields => fields

def UniqueField : String × Json → Prop
  | (_, document) => Unique document
termination_by structural field => field
end

/-- A key is put into a sorted map; one that is there already is replaced. -/
def insertField (field : String × Json) :
    List (String × Json) → List (String × Json)
  | [] => [field]
  | other :: fields =>
      if field.1 < other.1 then field :: other :: fields
      else if field.1 = other.1 then field :: fields
      else other :: insertField field fields

def sortFields (fields : List (String × Json)) : List (String × Json) :=
  fields.foldl (fun map field => insertField field map) []

mutual
def canonical : Json → Json
  | .array items => .array (canonicalItems items)
  | .object fields => .object (sortFields (canonicalFields fields))
  | document => document
termination_by structural document => document

def canonicalItems : List Json → List Json
  | [] => []
  | item :: items => canonical item :: canonicalItems items
termination_by structural items => items

def canonicalFields : List (String × Json) → List (String × Json)
  | [] => []
  | field :: fields => canonicalField field :: canonicalFields fields
termination_by structural fields => fields

def canonicalField : String × Json → String × Json
  | (key, document) => (key, canonical document)
termination_by structural field => field
end

mutual
/-- Every object's keys are in order, each key once. -/
def Sorted : Json → Prop
  | .array items => SortedItems items
  | .object fields =>
      (fields.map Prod.fst).Pairwise (· < ·) ∧ SortedFields fields
  | _ => True
termination_by structural document => document

def SortedItems : List Json → Prop
  | [] => True
  | item :: items => Sorted item ∧ SortedItems items
termination_by structural items => items

def SortedFields : List (String × Json) → Prop
  | [] => True
  | field :: fields => SortedField field ∧ SortedFields fields
termination_by structural fields => fields

def SortedField : String × Json → Prop
  | (_, document) => Sorted document
termination_by structural field => field
end

variable {document item : Json} {items : List Json} {room : ℕ}
variable {field : String × Json} {fields map : List (String × Json)}

@[simp] theorem depthField_eq (field : String × Json) :
    depthField field = field.2.depth := by
  cases field
  rfl

@[simp] theorem uniqueField_eq (field : String × Json) :
    UniqueField field = field.2.Unique := by
  cases field
  rfl

@[simp] theorem canonicalField_eq (field : String × Json) :
    canonicalField field = (field.1, field.2.canonical) := by
  cases field
  rfl

@[simp] theorem sortedField_eq (field : String × Json) :
    SortedField field = field.2.Sorted := by
  cases field
  rfl

theorem depth_le_of_mem_items (member : item ∈ items) :
    item.depth ≤ depthItems items := by
  induction items with
  | nil => cases member
  | cons first items ih =>
      rw [depthItems]
      rcases List.mem_cons.mp member with rfl | member
      · exact le_max_left _ _
      · exact (ih member).trans (le_max_right _ _)

theorem depth_le_of_mem_fields (member : field ∈ fields) :
    field.2.depth ≤ depthFields fields := by
  induction fields with
  | nil => cases member
  | cons first fields ih =>
      rw [depthFields, depthField_eq]
      rcases List.mem_cons.mp member with rfl | member
      · exact le_max_left _ _
      · exact (ih member).trans (le_max_right _ _)

theorem depthItems_le {bound : ℕ} (each : ∀ item ∈ items, item.depth ≤ bound) :
    depthItems items ≤ bound := by
  induction items with
  | nil => exact Nat.zero_le bound
  | cons item items ih =>
      obtain ⟨first, rest⟩ := List.forall_mem_cons.mp each
      exact max_le first (ih rest)

theorem depthFields_le {bound : ℕ}
    (each : ∀ field ∈ fields, field.2.depth ≤ bound) :
    depthFields fields ≤ bound := by
  induction fields with
  | nil => exact Nat.zero_le bound
  | cons field fields ih =>
      obtain ⟨first, rest⟩ := List.forall_mem_cons.mp each
      rw [depthFields, depthField_eq]
      exact max_le first (ih rest)

theorem uniqueItems_iff :
    UniqueItems items ↔ ∀ item ∈ items, item.Unique := by
  induction items with
  | nil => simp [UniqueItems]
  | cons item items ih => simp [UniqueItems, ih]

theorem uniqueFields_iff :
    UniqueFields fields ↔ ∀ field ∈ fields, field.2.Unique := by
  induction fields with
  | nil => simp [UniqueFields]
  | cons field fields ih => simp [UniqueFields, ih]

private theorem insertField_append
    (greater : ∀ other ∈ map, other.1 < field.1) :
    insertField field map = map ++ [field] := by
  induction map with
  | nil => rfl
  | cons other map ih =>
      obtain ⟨first, rest⟩ := List.forall_mem_cons.mp greater
      rw [insertField, if_neg first.not_gt, if_neg first.ne', ih rest]
      rfl

private theorem sortFields_eq_self
    (sorted : (fields.map Prod.fst).Pairwise (· < ·)) :
    sortFields fields = fields := by
  have appended (map rest : List (String × Json))
      (sorted : ((map ++ rest).map Prod.fst).Pairwise (· < ·)) :
      rest.foldl (fun map field => insertField field map) map =
        map ++ rest := by
    induction rest generalizing map with
    | nil => exact (List.append_nil map).symm
    | cons field rest ih =>
        have greater : ∀ other ∈ map, other.1 < field.1 := by
          intro other member
          rw [List.map_append, List.pairwise_append] at sorted
          exact sorted.2.2 _ (List.mem_map_of_mem member) _
            (List.mem_map_of_mem List.mem_cons_self)
        rw [List.foldl_cons, insertField_append greater, ih]
        · rw [List.append_assoc]
          rfl
        · rwa [List.append_assoc]
  exact appended [] fields sorted

mutual
theorem Sorted.canonical_eq : ∀ {document : Json}, document.Sorted →
    document.canonical = document
  | .null, _ => rfl
  | .bool _, _ => rfl
  | .number _, _ => rfl
  | .string _, _ => rfl
  | .array items, sorted => by
      rw [canonical, canonicalItems_eq items sorted]
  | .object fields, ⟨keys, sorted⟩ => by
      rw [canonical, canonicalFields_eq fields sorted,
        sortFields_eq_self keys]

theorem canonicalItems_eq : ∀ items : List Json, SortedItems items →
    canonicalItems items = items
  | [], _ => rfl
  | item :: items, ⟨first, rest⟩ => by
      rw [canonicalItems, first.canonical_eq, canonicalItems_eq items rest]

theorem canonicalFields_eq : ∀ fields : List (String × Json),
    SortedFields fields → canonicalFields fields = fields
  | [], _ => rfl
  | (key, document) :: fields, ⟨first, rest⟩ => by
      rw [canonicalFields, canonicalField_eq,
        (show document.Sorted from first).canonical_eq,
        canonicalFields_eq fields rest]
end

end JwSwarm.Proto.Json
