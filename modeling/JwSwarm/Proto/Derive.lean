import Mathlib.Data.Rat.Defs
import Mathlib.Data.Rat.Cast.Defs
import JwSwarm.Proto.Documents

namespace JwSwarm.Proto

/-! Derived codecs: how a declared type is written as a document and read back.
Readers are more lenient than writers: a record may come as an array, a variant
as an object with one key. -/

/-- What a value is read from: a text with room for so many levels of nesting,
or a part of the text that was buffered before. -/
inductive Reader where
  | text (room : ℕ)
  | buffer

namespace Reader

def enter : Reader → Option Reader
  | text room => if 1 < room then some (text (room - 1)) else none
  | buffer => some buffer

def fits : Reader → Json → Bool
  | text room, document => document.depth < room
  | buffer, _ => true

def readsUnit : Reader → Json → Bool
  | _, .null => true
  | buffer, .object [] => true
  | _, _ => false

variable {reader : Reader} {items : List Json} {fields : List (String × Json)}

theorem enter_array (fit : reader.fits (.array items) = true) :
    ∃ inner, reader.enter = some inner ∧
      ∀ item ∈ items, inner.fits item = true := by
  cases reader with
  | buffer => exact ⟨buffer, rfl, fun _ _ => rfl⟩
  | text room =>
      have below : Json.depthItems items + 1 < room := of_decide_eq_true fit
      refine ⟨text (room - 1), if_pos (by omega), fun item member => ?_⟩
      have depth := Json.depth_le_of_mem_items member
      exact decide_eq_true (by omega)

theorem enter_object (fit : reader.fits (.object fields) = true) :
    ∃ inner, reader.enter = some inner ∧
      ∀ field ∈ fields, inner.fits field.2 = true := by
  cases reader with
  | buffer => exact ⟨buffer, rfl, fun _ _ => rfl⟩
  | text room =>
      have below : Json.depthFields fields + 1 < room := of_decide_eq_true fit
      refine ⟨text (room - 1), if_pos (by omega), fun field member => ?_⟩
      have depth := Json.depth_le_of_mem_fields member
      exact decide_eq_true (by omega)

end Reader

/-- A type that is written and read. `Stored` says which values the declared
type can hold, `Regular` that a document uses none of the readers'
leniencies. -/
structure Codec (α : Type) where
  encode : α → Json
  decode : Reader → Json → Option α
  Stored : α → Prop
  Regular : Json → Prop
  decode_encode : ∀ {reader value}, Stored value →
    reader.fits (encode value) = true →
    decode reader (encode value) = some value

namespace Codec

variable {α β : Type}

def text : Codec String where
  encode value := .string value
  decode _ document := document.asStr
  Stored _ := True
  Regular _ := True
  decode_encode _ _ := rfl

def unsigned (size : ℕ) (ofNat : ℕ → α) (toNat : α → ℕ)
    (small : ∀ value, toNat value < size) (wide : size ≤ 2 ^ 64)
    (inverse : ∀ value, ofNat (toNat value) = value) : Codec α where
  encode value := .number (.posInt (UInt64.ofNat (toNat value)))
  decode _ document :=
    match document with
    | .number (.posInt value) =>
        if value.toNat < size then some (ofNat value.toNat) else none
    | .number (.negInt value) =>
        if 0 ≤ value.toInt ∧ value.toInt < size then
          some (ofNat value.toInt.toNat)
        else none
    | _ => none
  Stored _ := True
  Regular document :=
    match document with
    | .number (.posInt value) => value.toNat < size
    | .number (.negInt value) => value.toInt < 0
    | .number (.float value) => value.den ≠ 1
    | _ => True
  decode_encode {_ value} _ _ := by
    have bound := small value
    have same : (UInt64.ofNat (toNat value)).toNat = toNat value :=
      UInt64.toNat_ofNat_of_lt' (bound.trans_le wide)
    simp only [same, if_pos bound, inverse]

def u8 : Codec UInt8 :=
  unsigned (2 ^ 8) UInt8.ofNat UInt8.toNat UInt8.toNat_lt (by decide)
    fun _ => UInt8.ofNat_toNat

def u32 : Codec UInt32 :=
  unsigned (2 ^ 32) UInt32.ofNat UInt32.toNat UInt32.toNat_lt (by decide)
    fun _ => UInt32.ofNat_toNat

def u64 : Codec UInt64 :=
  unsigned (2 ^ 64) UInt64.ofNat UInt64.toNat UInt64.toNat_lt (by decide)
    fun _ => UInt64.ofNat_toNat

/-- Floating-point numbers, taken as exact; integers are read as well. -/
def float : Codec ℚ where
  encode value := .number (.float value)
  decode _ document :=
    match document with
    | .number (.posInt value) => some value.toNat
    | .number (.negInt value) => some value.toInt
    | .number (.float value) => some value
    | _ => none
  Stored _ := True
  Regular _ := True
  decode_encode _ _ := rfl

/-- An enumeration of unit variants. -/
def unitEnum (variants : List α) (name : α → String)
    (all : ∀ value, value ∈ variants)
    (distinct : ∀ value other, name value = name other → value = other) :
    Codec α where
  encode value := .string (name value)
  decode reader document :=
    match document with
    | .string text => variants.find? (name · == text)
    | .object [(text, unit)] => do
        let inner ← reader.enter
        if inner.readsUnit unit then variants.find? (name · == text) else none
    | _ => none
  Stored _ := True
  Regular document :=
    match document with
    | .object _ => False
    | _ => True
  decode_encode {_ value} _ _ := by
    simp only
    cases found : variants.find? (name · == name value) with
    | none =>
        have other := List.find?_eq_none.mp found value (all value)
        exact absurd (beq_self_eq_true _) other
    | some other =>
        have same := List.find?_some found
        rw [distinct other value (eq_of_beq same)]

def list (item : Codec α) : Codec (List α) where
  encode values := .array (values.map item.encode)
  decode reader document :=
    match document with
    | .array items => do
        let inner ← reader.enter
        items.mapM (item.decode inner)
    | _ => none
  Stored values := ∀ value ∈ values, item.Stored value
  Regular document :=
    match document with
    | .array items => ∀ document ∈ items, item.Regular document
    | _ => True
  decode_encode {_ values} stored fit := by
    obtain ⟨inner, entered, fits⟩ := Reader.enter_array fit
    simp only [entered, Option.bind_eq_bind, Option.bind_some]
    clear fit entered
    induction values with
    | nil => rfl
    | cons value values ih =>
        obtain ⟨first, rest⟩ := List.forall_mem_cons.mp stored
        obtain ⟨firstFit, restFit⟩ := List.forall_mem_cons.mp fits
        rw [List.map_cons, List.mapM_cons, item.decode_encode first firstFit,
          ih rest restFit]
        rfl

/-- A document that is kept as it is, its objects as sorted maps. -/
def value : Codec Json where
  encode document := document
  decode reader document :=
    if reader.fits document then some document.canonical else none
  Stored document := document.Sorted
  Regular _ := True
  decode_encode stored fit := by
    rw [if_pos fit, stored.canonical_eq]

end Codec

def only (key : String) (fields : List (String × Json)) : Option Json :=
  match fields.filter (·.1 == key) with
  | [(_, document)] => some document
  | _ => none

section Only

variable {key : String} {document : Json} {fields : List (String × Json)}

private theorem filter_key_eq_nil (absent : key ∉ fields.map Prod.fst) :
    fields.filter (·.1 == key) = [] := by
  rw [List.filter_eq_nil_iff]
  intro field member same
  apply absent
  rw [← eq_of_beq same]
  exact List.mem_map_of_mem member

theorem only_eq_some_iff (distinct : (fields.map Prod.fst).Nodup) :
    only key fields = some document ↔ (key, document) ∈ fields := by
  induction fields with
  | nil => simp [only]
  | cons field fields ih =>
      obtain ⟨other, value⟩ := field
      rw [List.map_cons, List.nodup_cons] at distinct
      obtain ⟨fresh, distinct⟩ := distinct
      by_cases same : other = key
      · subst same
        have rest := filter_key_eq_nil fresh
        have held : (other, document) ∉ fields :=
          fun member => fresh (List.mem_map.mpr ⟨_, member, rfl⟩)
        simp [only, rest, held, eq_comm]
      · have kept : only key ((other, value) :: fields) = only key fields := by
          simp [only, same]
        rw [kept, ih distinct]
        simp [Ne.symm same]

end Only

/-- The fields of a record, in the order they are declared. -/
structure Record (α : Type) where
  names : List String
  encode : α → List (String × Json)
  decodeFields : Reader → List (String × Json) → Option α
  decodeItems : Reader → List Json → Option α
  Stored : α → Prop
  Regular : List (String × Json) → Prop
  keys : ∀ value, (encode value).map Prod.fst = names
  decode_encode : ∀ {reader fields value}, Stored value →
    (∀ field ∈ encode value, only field.1 fields = some field.2 ∧
      reader.fits field.2 = true) →
    decodeFields reader fields = some value

namespace Record

variable {α β : Type}

def empty : Record Unit where
  names := []
  encode _ := []
  decodeFields _ _ := some ()
  decodeItems _ items :=
    match items with
    | [] => some ()
    | _ => none
  Stored _ := True
  Regular _ := True
  keys _ := rfl
  decode_encode _ _ := rfl

def field (name : String) (codec : Codec α) (rest : Record β) :
    Record (α × β) where
  names := name :: rest.names
  encode value := (name, codec.encode value.1) :: rest.encode value.2
  decodeFields reader fields := do
    let document ← only name fields
    let first ← codec.decode reader document
    let others ← rest.decodeFields reader fields
    some (first, others)
  decodeItems reader items :=
    match items with
    | [] => none
    | item :: items => do
        let first ← codec.decode reader item
        let others ← rest.decodeItems reader items
        some (first, others)
  Stored value := codec.Stored value.1 ∧ rest.Stored value.2
  Regular fields :=
    (∀ field ∈ fields, field.1 = name → codec.Regular field.2) ∧
      rest.Regular fields
  keys value := by rw [List.map_cons, rest.keys]
  decode_encode {reader fields value} stored each := by
    obtain ⟨⟨found, fit⟩, others⟩ := List.forall_mem_cons.mp each
    simp only [found, codec.decode_encode stored.1 fit,
      rest.decode_encode stored.2 others, Option.bind_eq_bind,
      Option.bind_some]

end Record

namespace Codec

variable {α β : Type}

/-- A record: an object with its fields, or an array of them. -/
def record (fields : Record β) (pack : β → α) (unpack : α → β)
    (inverse : ∀ value, pack (unpack value) = value)
    (distinct : fields.names.Nodup) : Codec α where
  encode value := .object (fields.encode (unpack value))
  decode reader document :=
    match document with
    | .object members => do
        let inner ← reader.enter
        (fields.decodeFields inner members).map pack
    | .array items => do
        let inner ← reader.enter
        (fields.decodeItems inner items).map pack
    | _ => none
  Stored value := fields.Stored (unpack value)
  Regular document :=
    match document with
    | .object members => fields.Regular members
    | .array _ => False
    | _ => True
  decode_encode {_ value} stored fit := by
    obtain ⟨inner, entered, fits⟩ := Reader.enter_object fit
    have keys : ((fields.encode (unpack value)).map Prod.fst).Nodup := by
      rwa [fields.keys]
    have read := @Record.decode_encode _ fields inner
      (fields.encode (unpack value)) _ stored
      fun field member =>
        ⟨(only_eq_some_iff keys).mpr member, fits field member⟩
    simp only [entered, read, Option.bind_eq_bind, Option.bind_some,
      Option.map_some, inverse]

end Codec

/-- Every value is read back wherever there is room for so many levels. -/
def Codec.Plain {α : Type} (codec : Codec α) (bound : ℕ) : Prop :=
  ∀ value, codec.Stored value ∧ (codec.encode value).depth ≤ bound

def Record.Plain {α : Type} (record : Record α) (bound : ℕ) : Prop :=
  ∀ value, record.Stored value ∧
    ∀ field ∈ record.encode value, field.2.depth ≤ bound

section Plain

variable {α β : Type} {codec : Codec α} {fields : Record β} {bound : ℕ}

theorem Codec.Plain.decode_encode (plain : codec.Plain bound) {room : ℕ}
    (roomy : bound < room) (value : α) :
    codec.decode (.text room) (codec.encode value) = some value := by
  obtain ⟨stored, shallow⟩ := plain value
  exact codec.decode_encode stored (decide_eq_true (shallow.trans_lt roomy))

theorem Codec.plain_text : Codec.text.Plain bound :=
  fun _ => ⟨trivial, Nat.zero_le bound⟩

theorem Codec.plain_u8 : Codec.u8.Plain bound :=
  fun _ => ⟨trivial, Nat.zero_le bound⟩

theorem Codec.plain_u32 : Codec.u32.Plain bound :=
  fun _ => ⟨trivial, Nat.zero_le bound⟩

theorem Codec.plain_u64 : Codec.u64.Plain bound :=
  fun _ => ⟨trivial, Nat.zero_le bound⟩

theorem Codec.plain_float : Codec.float.Plain bound :=
  fun _ => ⟨trivial, Nat.zero_le bound⟩

theorem Codec.plain_unitEnum {variants : List α} {name : α → String}
    {all : ∀ value, value ∈ variants}
    {distinct : ∀ value other, name value = name other → value = other} :
    (Codec.unitEnum variants name all distinct).Plain bound :=
  fun _ => ⟨trivial, Nat.zero_le bound⟩

theorem Codec.Plain.list (plain : codec.Plain bound) :
    (Codec.list codec).Plain (bound + 1) := by
  intro values
  refine ⟨fun value _ => (plain value).1, Nat.succ_le_succ ?_⟩
  apply Json.depthItems_le
  intro item member
  obtain ⟨value, -, rfl⟩ := List.mem_map.mp member
  exact (plain value).2

theorem Record.plain_empty : Record.empty.Plain bound :=
  fun _ => ⟨trivial, fun _ member => by cases member⟩

theorem Record.Plain.field {name : String} (first : codec.Plain bound)
    (rest : fields.Plain bound) :
    (Record.field name codec fields).Plain bound := by
  intro value
  refine ⟨⟨(first value.1).1, (rest value.2).1⟩, ?_⟩
  exact List.forall_mem_cons.mpr ⟨(first value.1).2, (rest value.2).2⟩

theorem Record.Plain.record (plain : fields.Plain bound) {pack : β → α}
    {unpack : α → β} {inverse : ∀ value, pack (unpack value) = value}
    {distinct : fields.names.Nodup} :
    (Codec.record fields pack unpack inverse distinct).Plain (bound + 1) := by
  intro value
  obtain ⟨stored, shallow⟩ := plain (unpack value)
  exact ⟨stored, Nat.succ_le_succ (Json.depthFields_le shallow)⟩

end Plain

/-- A variant of an enumeration. `absent` is its value without content. -/
structure Variant (α : Type) where
  name : String
  absent : Option α
  decode : Reader → Json → Option α
  Regular : Json → Prop

namespace Variant

variable {α β : Type}

/-- A variant without content. It is written without the content key. -/
def unit (name : String) (value : α) : Variant α where
  name
  absent := some value
  decode _ document :=
    match document with
    | .null => some value
    | _ => none
  Regular _ := True

def newtype (name : String) (codec : Codec β) (wrap : β → α) : Variant α where
  name
  absent := none
  decode reader document := (codec.decode reader document).map wrap
  Regular := codec.Regular

/-- The tag, itself read as an enumeration of unit variants. -/
def read (variants : List (Variant α)) (reader : Reader) :
    Json → Option (Variant α)
  | .string text => variants.find? (·.name == text)
  | .object [(text, unit)] => do
      let inner ← reader.enter
      if inner.readsUnit unit then variants.find? (·.name == text) else none
  | _ => none

end Variant

section Tagged

variable {α : Type} (tag content : String)

def encodeTagged : String × Option Json → Json
  | (name, none) => .object [(tag, .string name)]
  | (name, some document) =>
      .object [(tag, .string name), (content, document)]

/-- Other keys are passed over. Content that comes before its tag is
buffered. -/
def decodeTagged (variants : List (Variant α)) (reader : Reader)
    (document : Json) : Option α := do
  match document with
  | .object fields =>
      let inner ← reader.enter
      match fields.filter fun field => field.1 == tag || field.1 == content with
      | [(first, name)] =>
          if first = tag then
            let variant ← Variant.read variants inner name
            variant.absent
          else none
      | [(first, one), (second, other)] =>
          if first = tag ∧ second = content then
            let variant ← Variant.read variants inner one
            variant.decode inner other
          else if first = content ∧ second = tag then
            if inner.fits one then
              let variant ← Variant.read variants inner other
              variant.decode .buffer one
            else none
          else none
      | _ => none
  | .array [name, body] =>
      let inner ← reader.enter
      let variant ← Variant.read variants inner name
      variant.decode inner body
  | _ => none

variable {tag content} {variants : List (Variant α)} {variant : Variant α}
variable {name : String} {room : ℕ} {document : Json}

theorem decodeTagged_content (roomy : 1 < room)
    (found : variants.find? (·.name == name) = some variant) :
    decodeTagged tag content variants (.text room)
        (encodeTagged tag content (name, some document)) =
      variant.decode (.text (room - 1)) document := by
  simp [decodeTagged, encodeTagged, Reader.enter, Variant.read, roomy, found]

end Tagged

end JwSwarm.Proto
