import Mathlib.Data.List.Permutation
import JwSwarm.Proto.Derive
import JwSwarm.Proto.SchemaLanguage

namespace JwSwarm.Proto

/-! Documents that another writer may produce for the same value: the keys of an
object in another order, a floating-point number without a fraction as an
integer. -/

/-- A number without a fraction as an integer, below a bound. -/
def Number.whole (bound : ℕ) (value : ℚ) : Number :=
  if value.den = 1 ∧ value.num.natAbs < bound then
    if 0 ≤ value.num then .posInt (UInt64.ofNat value.num.toNat)
    else .negInt (Int64.ofInt value.num)
  else .float value

theorem Number.toRat_whole {bound : ℕ} (narrow : bound ≤ 2 ^ 63) (value : ℚ) :
    (whole bound value).toRat = value := by
  rw [whole]
  split
  case isFalse => rfl
  case isTrue small =>
    obtain ⟨integral, small⟩ := small
    have exact : (value.num : ℚ) = value := value.den_eq_one_iff.mp integral
    split
    case isTrue nonneg =>
      have fits : (UInt64.ofNat value.num.toNat).toNat = value.num.toNat :=
        UInt64.toNat_ofNat_of_lt' (by simp only [UInt64.size]; omega)
      rw [toRat, fits]
      calc ((value.num.toNat : ℕ) : ℚ) = ((value.num.toNat : ℤ) : ℚ) := rfl
        _ = (value.num : ℚ) := by rw [Int.toNat_of_nonneg nonneg]
        _ = value := exact
    case isFalse negative =>
      have fits : (Int64.ofInt value.num).toInt = value.num :=
        Int64.toInt_ofInt_of_le (by simp; omega) (by simp; omega)
      rw [toRat, fits, exact]

mutual
/-- The second document may be written in the first one's place. -/
inductive Rewritten : Json → Json → Prop where
  | string (value : String) : Rewritten (.string value) (.string value)
  | number (number : Number) : Rewritten (.number number) (.number number)
  | float {value : ℚ} {number : Number} (same : number.toRat = value) :
      Rewritten (.number (.float value)) (.number number)
  | array {items others : List Json} (each : RewrittenItems items others) :
      Rewritten (.array items) (.array others)
  | object {fields others members : List (String × Json)}
      (each : RewrittenFields fields others) (ordered : members.Perm others) :
      Rewritten (.object fields) (.object members)

inductive RewrittenItems : List Json → List Json → Prop where
  | nil : RewrittenItems [] []
  | cons {item other : Json} {items others : List Json}
      (first : Rewritten item other) (rest : RewrittenItems items others) :
      RewrittenItems (item :: items) (other :: others)

/-- Under the same keys, before they are reordered. -/
inductive RewrittenFields :
    List (String × Json) → List (String × Json) → Prop where
  | nil : RewrittenFields [] []
  | cons {key : String} {document other : Json}
      {fields others : List (String × Json)}
      (first : Rewritten document other)
      (rest : RewrittenFields fields others) :
      RewrittenFields ((key, document) :: fields) ((key, other) :: others)
end

theorem RewrittenFields.keys {fields others : List (String × Json)}
    (each : RewrittenFields fields others) :
    others.map Prod.fst = fields.map Prod.fst := by
  induction fields generalizing others with
  | nil =>
      cases each with
      | nil => rfl
  | cons field fields ih =>
      cases each with
      | cons _ rest => rw [List.map_cons, List.map_cons, ih rest]

theorem rewrittenItems_map {α : Type} {encode write : α → Json}
    (each : ∀ value, Rewritten (encode value) (write value))
    (values : List α) :
    RewrittenItems (values.map encode) (values.map write) := by
  induction values with
  | nil => exact .nil
  | cons value values ih => exact .cons (each value) ih

/-- Every document written in the place of a value's own is nested no deeper
than the bound, and read as the value. -/
structure Codec.Lenient {α : Type} (codec : Codec α) (bound : ℕ) : Prop where
  shallow : ∀ {value document}, Rewritten (codec.encode value) document →
    document.depth ≤ bound
  decode : ∀ {reader value document}, Rewritten (codec.encode value) document →
    reader.fits document = true → codec.decode reader document = some value

structure Record.Lenient {α : Type} (record : Record α) (bound : ℕ) : Prop where
  shallow : ∀ {value others}, RewrittenFields (record.encode value) others →
    ∀ field ∈ others, field.2.depth ≤ bound
  decode : ∀ {reader value others members},
    RewrittenFields (record.encode value) others →
    (∀ field ∈ others, only field.1 members = some field.2 ∧
      reader.fits field.2 = true) →
    record.decodeFields reader members = some value

section Lenient

variable {α β : Type} {codec : Codec α} {fields : Record β} {bound : ℕ}

theorem Codec.lenient_text : Codec.text.Lenient bound where
  shallow rewritten := by
    cases rewritten with
    | string => exact Nat.zero_le bound
  decode rewritten _ := by
    cases rewritten with
    | string => rfl

theorem Codec.lenient_unsigned {size : ℕ} {ofNat : ℕ → α} {toNat : α → ℕ}
    {small : ∀ value, toNat value < size} {wide : size ≤ 2 ^ 64}
    {inverse : ∀ value, ofNat (toNat value) = value} :
    (Codec.unsigned size ofNat toNat small wide inverse).Lenient bound where
  shallow rewritten := by
    cases rewritten with
    | number => exact Nat.zero_le bound
  decode rewritten fit := by
    cases rewritten with
    | number => exact Codec.decode_encode _ trivial fit

theorem Codec.lenient_float : Codec.float.Lenient bound where
  shallow rewritten := by
    cases rewritten with
    | number => exact Nat.zero_le bound
    | float => exact Nat.zero_le bound
  decode rewritten _ := by
    cases rewritten with
    | number => rfl
    | @float _ number same =>
        subst same
        cases number with
        | posInt value => rfl
        | negInt value => rfl
        | float value => rfl

theorem Codec.lenient_unitEnum {variants : List α} {name : α → String}
    {all : ∀ value, value ∈ variants}
    {distinct : ∀ value other, name value = name other → value = other} :
    (Codec.unitEnum variants name all distinct).Lenient bound where
  shallow rewritten := by
    cases rewritten with
    | string => exact Nat.zero_le bound
  decode rewritten fit := by
    cases rewritten with
    | string => exact Codec.decode_encode _ trivial fit

private theorem Codec.Lenient.mapM_decode {reader : Reader}
    (lenient : codec.Lenient bound) {values : List α} {items : List Json}
    (each : RewrittenItems (values.map codec.encode) items)
    (fits : ∀ item ∈ items, reader.fits item = true) :
    items.mapM (codec.decode reader) = some values := by
  induction values generalizing items with
  | nil =>
      cases each with
      | nil => rfl
  | cons value values ih =>
      cases each with
      | cons first rest =>
          obtain ⟨firstFit, restFit⟩ := List.forall_mem_cons.mp fits
          rw [List.mapM_cons, lenient.decode first firstFit, ih rest restFit]
          rfl

private theorem Codec.Lenient.depth_le (lenient : codec.Lenient bound)
    {values : List α} {items : List Json}
    (each : RewrittenItems (values.map codec.encode) items) :
    ∀ item ∈ items, item.depth ≤ bound := by
  induction values generalizing items with
  | nil =>
      cases each with
      | nil => exact List.forall_mem_nil _
  | cons value values ih =>
      cases each with
      | cons first rest =>
          exact List.forall_mem_cons.mpr ⟨lenient.shallow first, ih rest⟩

theorem Codec.Lenient.list (lenient : codec.Lenient bound) :
    (Codec.list codec).Lenient (bound + 1) where
  shallow rewritten := by
    cases rewritten with
    | array each =>
        exact Nat.succ_le_succ (Json.depthItems_le (lenient.depth_le each))
  decode rewritten fit := by
    cases rewritten with
    | array each =>
        obtain ⟨inner, entered, fits⟩ := Reader.enter_array fit
        simp only [Codec.list, entered, Option.bind_eq_bind, Option.bind_some]
        exact lenient.mapM_decode each fits

theorem Record.lenient_empty : Record.empty.Lenient bound where
  shallow each := by
    cases each with
    | nil => exact List.forall_mem_nil _
  decode _ _ := rfl

theorem Record.Lenient.field {name : String} (first : codec.Lenient bound)
    (rest : fields.Lenient bound) :
    (Record.field name codec fields).Lenient bound where
  shallow each := by
    cases each with
    | cons one others =>
        exact List.forall_mem_cons.mpr
          ⟨first.shallow one, rest.shallow others⟩
  decode {_ _ _ _} each found := by
    cases each with
    | cons one others =>
        obtain ⟨⟨firstFound, fit⟩, restFound⟩ := List.forall_mem_cons.mp found
        simp only [Record.field, firstFound, first.decode one fit,
          rest.decode others restFound, Option.bind_eq_bind, Option.bind_some]

theorem Record.Lenient.record (lenient : fields.Lenient bound) {pack : β → α}
    {unpack : α → β} {inverse : ∀ value, pack (unpack value) = value}
    {distinct : fields.names.Nodup} :
    (Codec.record fields pack unpack inverse distinct).Lenient (bound + 1) where
  shallow rewritten := by
    cases rewritten with
    | object each ordered =>
        refine Nat.succ_le_succ (Json.depthFields_le fun field member => ?_)
        exact lenient.shallow each field (ordered.subset member)
  decode {_ value _} rewritten fit := by
    cases rewritten with
    | @object _ others members each ordered =>
        obtain ⟨inner, entered, fits⟩ := Reader.enter_object fit
        have keys : (others.map Prod.fst).Nodup := by
          rw [RewrittenFields.keys each, fields.keys]
          exact distinct
        have distinctKeys : (members.map Prod.fst).Nodup :=
          (ordered.map Prod.fst).nodup_iff.mpr keys
        have read := @Record.Lenient.decode _ fields bound lenient inner
          (unpack value) others members each fun field member =>
            have held := ordered.symm.subset member
            ⟨(only_eq_some_iff distinctKeys).mpr held, fits field held⟩
        simp only [Codec.record, entered, read, Option.bind_eq_bind,
          Option.bind_some, Option.map_some, inverse]

end Lenient

section Tagged

variable {α β : Type} {tag content : String} {variants : List (Variant α)}
variable {name : String} {codec : Codec β} {wrap : β → α} {value : β}
variable {bound room : ℕ} {document : Json}

private theorem rewritten_tagged_cases {one : Json}
    (rewritten : Rewritten (encodeTagged tag content (name, some one))
      document) :
    ∃ other, Rewritten one other ∧
      (document = .object [(tag, .string name), (content, other)] ∨
        document = .object [(content, other), (tag, .string name)]) := by
  cases rewritten with
  | object each ordered =>
      obtain _ | ⟨⟨⟩, _ | ⟨body, ⟨⟩⟩⟩ := each
      refine ⟨_, body, ?_⟩
      rcases List.perm_pair.mp ordered with rfl | rfl
      · exact .inl rfl
      · exact .inr rfl

theorem rewritten_tagged_unit
    (rewritten : Rewritten (encodeTagged tag content (name, none)) document) :
    document = encodeTagged tag content (name, none) := by
  cases rewritten with
  | object each ordered =>
      obtain _ | ⟨⟨⟩, ⟨⟩⟩ := each
      rw [List.perm_singleton.mp ordered]
      rfl

private theorem decodeTagged_buffered (roomy : 1 < room) {variant : Variant α}
    (apart : tag ≠ content)
    (found : variants.find? (·.name == name) = some variant)
    (fit : (Reader.text (room - 1)).fits document = true) :
    decodeTagged tag content variants (.text room)
        (.object [(content, document), (tag, .string name)]) =
      variant.decode .buffer document := by
  simp [decodeTagged, Reader.enter, Variant.read, roomy, found, fit, apart,
    apart.symm]

theorem Codec.Lenient.decodeTagged (lenient : codec.Lenient bound)
    (apart : tag ≠ content) (roomy : bound + 1 < room)
    (found : variants.find? (·.name == name) =
      some (.newtype name codec wrap))
    (rewritten : Rewritten (encodeTagged tag content
      (name, some (codec.encode value))) document) :
    decodeTagged tag content variants (.text room) document =
      some (wrap value) := by
  obtain ⟨other, body, order⟩ := rewritten_tagged_cases rewritten
  have fit : (Reader.text (room - 1)).fits other = true :=
    decide_eq_true (by have := lenient.shallow body; omega)
  have wide : 1 < room := by omega
  rcases order with rfl | rfl
  · rw [← encodeTagged, decodeTagged_content wide found, Variant.newtype]
    simp only [lenient.decode body fit, Option.map_some]
  · rw [decodeTagged_buffered wide apart found fit, Variant.newtype]
    have read := @Codec.Lenient.decode _ _ _ lenient .buffer _ _ body rfl
    simp only [read, Option.map_some]

end Tagged

end JwSwarm.Proto
