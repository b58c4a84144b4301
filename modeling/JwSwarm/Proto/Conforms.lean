import JwSwarm.Proto.Derive
import JwSwarm.Proto.SchemaLanguage

namespace JwSwarm.Proto

/-! When a derived codec and a schema speak of the same documents. -/

def Json.IsObject : Json → Prop
  | .object _ => True
  | _ => False

/-- Among regular documents the codec reads the valid ones, up to a range that
the declared type does not state; a value in the range is written validly. -/
structure Codec.Conforms {α : Type} (codec : Codec α) (schema : Schema)
    (InRange : α → Prop) : Prop where
  document : ∀ {reader document}, document.Unique →
    reader.fits document = true → codec.Regular document →
    (schema document = true ↔
      ∃ value, codec.decode reader document = some value ∧ InRange value)
  encoded : ∀ value, schema (codec.encode value) = true ↔ InRange value

namespace Codec

variable {α β : Type} {codec : Codec α} {schema : Schema}
variable {InRange Other : α → Prop}

theorem Conforms.congr (conforms : codec.Conforms schema InRange)
    (same : ∀ value, InRange value ↔ Other value) :
    codec.Conforms schema Other := by
  obtain rfl : InRange = Other := by
    funext value
    exact propext (same value)
  exact conforms

theorem text_conforms :
    Codec.text.Conforms (Schema.type .string) fun _ => True where
  document {_ document} _ _ _ := by
    cases document <;> simp [Codec.text, Schema.type, Json.asStr]
  encoded _ := by simp [Codec.text, Schema.type]

section Numbers

variable {P : ℚ → Prop}

theorem float_conforms
    (spec : ∀ document, schema document = true ↔
      ∃ number : Number, document = .number number ∧ P number.toRat) :
    Codec.float.Conforms schema P where
  document {_ document} _ _ _ := by
    rw [spec]
    cases document with
    | number number =>
        cases number with
        | posInt value => simp [Codec.float, Number.toRat]
        | negInt value => simp [Codec.float, Number.toRat]
        | float value => simp [Codec.float, Number.toRat]
    | _ => simp [Codec.float]
  encoded value := by simp [spec, Codec.float, Number.toRat]

variable {size : ℕ} {ofNat : ℕ → α} {toNat : α → ℕ}
variable {small : ∀ value, toNat value < size} {wide : size ≤ 2 ^ 64}
variable {inverse : ∀ value, ofNat (toNat value) = value}

theorem unsigned_conforms
    (spec : ∀ document, schema document = true ↔
      ∃ number : Number, document = .number number ∧
        number.toRat.den = 1 ∧ P number.toRat)
    (nonneg : ∀ number, P number → 0 ≤ number)
    (exact : ∀ number < size, toNat (ofNat number) = number) :
    (Codec.unsigned size ofNat toNat small wide inverse).Conforms schema
      fun value => P (toNat value) where
  document {_ document} _ _ regular := by
    rw [spec]
    cases document with
    | number number =>
        cases number with
        | posInt value =>
            have bound : value.toNat < size := regular
            simp [Codec.unsigned, Number.toRat, bound, exact _ bound]
        | negInt value =>
            have negative : value.toInt < 0 := regular
            have outside : ¬ P value.toInt := by
              intro inside
              have least := nonneg _ inside
              have positive : 0 ≤ value.toInt := by exact_mod_cast least
              exact positive.not_gt negative
            simp [Codec.unsigned, Number.toRat, outside, negative.not_ge]
        | float value =>
            have fractional : value.den ≠ 1 := regular
            simp [Codec.unsigned, Number.toRat, fractional]
    | _ => simp [Codec.unsigned]
  encoded value := by
    have same : (UInt64.ofNat (toNat value)).toNat = toNat value :=
      UInt64.toNat_ofNat_of_lt' ((small value).trans_le wide)
    simp [spec, Codec.unsigned, Number.toRat, same]

end Numbers

theorem unitEnum_conforms {variants : List α} {name : α → String}
    {all : ∀ value, value ∈ variants}
    {distinct : ∀ value other, name value = name other → value = other}
    {names : List String} (named : variants.map name = names) :
    (Codec.unitEnum variants name all distinct).Conforms
      (Schema.allOf [Schema.type .string, Schema.enum names])
      fun _ => True where
  document {_ document} _ _ regular := by
    subst named
    cases document with
    | object fields => exact regular.elim
    | string text =>
        have found : (∃ value, variants.find? (name · == text) = some value) ↔
            ∃ value ∈ variants, name value = text := by
          rw [← Option.isSome_iff_exists, List.find?_isSome]
          simp
        simpa [Schema.allOf, Schema.type, Schema.enum, Codec.unitEnum]
          using found.symm
    | _ => simp [Schema.allOf, Schema.type, Codec.unitEnum]
  encoded value := by
    subst named
    have member := List.mem_map_of_mem (f := name) (all value)
    simp [Schema.allOf, Schema.type, Schema.enum, Codec.unitEnum, member]

private theorem mapM_conforms {decode : Json → Option α} {items : List Json}
    (each : ∀ item ∈ items, schema item = true ↔
      ∃ value, decode item = some value ∧ InRange value) :
    (∀ item ∈ items, schema item = true) ↔
      ∃ values, items.mapM decode = some values ∧
        ∀ value ∈ values, InRange value := by
  induction items with
  | nil => simp
  | cons item items ih =>
      obtain ⟨first, rest⟩ := List.forall_mem_cons.mp each
      rw [List.forall_mem_cons, first, ih rest, List.mapM_cons]
      constructor
      · rintro ⟨⟨value, read, inRange⟩, values, others, inRanges⟩
        refine ⟨value :: values, ?_,
          List.forall_mem_cons.mpr ⟨inRange, inRanges⟩⟩
        simp [read, others]
      · rintro ⟨values, read, inRanges⟩
        cases one : decode item with
        | none => simp [one] at read
        | some value =>
            cases more : items.mapM decode with
            | none => simp [one, more] at read
            | some others =>
                obtain rfl : value :: others = values := by
                  simpa [one, more] using read
                obtain ⟨inRange, inRanges⟩ := List.forall_mem_cons.mp inRanges
                exact ⟨⟨value, rfl, inRange⟩, others, rfl, inRanges⟩

theorem Conforms.list (conforms : codec.Conforms schema InRange) :
    (Codec.list codec).Conforms
      (Schema.allOf [Schema.type .array, Schema.items schema])
      fun values => ∀ value ∈ values, InRange value where
  document {_ document} unique fit regular := by
    cases document with
    | array items =>
        obtain ⟨inner, entered, fits⟩ := Reader.enter_array fit
        have uniques := Json.uniqueItems_iff.mp unique
        have read := @mapM_conforms α schema InRange (codec.decode inner) items
          fun item member =>
            conforms.document (uniques item member) (fits item member)
              (regular item member)
        simpa [Schema.allOf, Schema.type, Schema.items, Codec.list, entered]
          using read
    | _ => simp [Schema.allOf, Schema.type, Codec.list]
  encoded values := by
    simp [Schema.allOf, Schema.type, Schema.items, Codec.list,
      conforms.encoded]

theorem value_conforms :
    Codec.value.Conforms (Schema.type .object) Json.IsObject where
  document {_ document} _ fit _ := by
    cases document with
    | object fields =>
        simp [Codec.value, Schema.type, fit, Json.canonical, Json.IsObject]
    | _ => simp [Codec.value, Schema.type, fit, Json.canonical, Json.IsObject]
  encoded document := by
    cases document with
    | object fields => simp [Codec.value, Schema.type, Json.IsObject]
    | _ => simp [Codec.value, Schema.type, Json.IsObject]

end Codec

/-- An object's members have the declared properties. -/
def Declared (schemas : List (String × Schema))
    (members : List (String × Json)) : Prop :=
  ∀ entry ∈ schemas, ∃ document, (entry.1, document) ∈ members ∧
    entry.2 document = true

/-- A record's fields and the properties of an object, one by one. -/
structure Record.Conforms {α : Type} (fields : Record α)
    (schemas : List (String × Schema)) (InRange : α → Prop) : Prop where
  names : schemas.map Prod.fst = fields.names
  document : ∀ {reader members}, (members.map Prod.fst).Nodup →
    (∀ member ∈ members, member.2.Unique) →
    (∀ member ∈ members, reader.fits member.2 = true) →
    fields.Regular members →
    (Declared schemas members ↔
      ∃ value, fields.decodeFields reader members = some value ∧ InRange value)
  encoded : fields.names.Nodup → ∀ value,
    Declared schemas (fields.encode value) ↔ InRange value

section Declared

variable {schemas : List (String × Schema)} {members : List (String × Json)}
variable {name : String} {schema : Schema} {document : Json}

private theorem declared_cons (fresh : name ∉ schemas.map Prod.fst) :
    Declared schemas ((name, document) :: members) ↔
      Declared schemas members := by
  apply forall₂_congr
  intro entry member
  have other : entry.1 ≠ name := by
    intro same
    apply fresh
    rw [← same]
    exact List.mem_map_of_mem member
  simp [other]

private theorem exists_mem_iff (distinct : (members.map Prod.fst).Nodup) :
    (∃ document, (name, document) ∈ members ∧ schema document = true) ↔
      ∃ document, only name members = some document ∧
        schema document = true := by
  apply exists_congr
  intro document
  rw [only_eq_some_iff distinct]

private theorem find?_key_eq_some_iff
    (distinct : (members.map Prod.fst).Nodup) :
    members.find? (·.1 == name) = some (name, document) ↔
      (name, document) ∈ members := by
  constructor
  · exact List.mem_of_find?_eq_some
  · intro member
    induction members with
    | nil => cases member
    | cons field members ih =>
        rw [List.map_cons, List.nodup_cons] at distinct
        cases member with
        | head => simp
        | tail _ member =>
            have other : field.1 ≠ name := by
              intro same
              apply distinct.1
              rw [same]
              exact List.mem_map_of_mem member
            rw [List.find?_cons_of_neg (by simpa using other)]
            exact ih distinct.2 member

theorem property_of_mem (distinct : (members.map Prod.fst).Nodup)
    (member : (name, document) ∈ members) :
    Schema.property name schema (.object members) = schema document := by
  have found := (find?_key_eq_some_iff distinct).mpr member
  simp [Schema.property, found]

private theorem required_and_property_iff
    (distinct : (members.map Prod.fst).Nodup) :
    ((members.any (·.1 == name)) = true ∧
        Schema.property name schema (.object members) = true) ↔
      ∃ document, (name, document) ∈ members ∧ schema document = true := by
  cases found : members.find? (·.1 == name) with
  | none =>
      have absent := List.find?_eq_none.mp found
      constructor
      · rintro ⟨present, -⟩
        obtain ⟨field, member, same⟩ := List.any_eq_true.mp present
        exact absurd same (absent field member)
      · rintro ⟨document, member, -⟩
        exact absurd (beq_self_eq_true name) (absent _ member)
  | some field =>
      obtain ⟨key, held⟩ := field
      obtain rfl : key = name := by
        simpa using List.find?_some found
      have member := List.mem_of_find?_eq_some found
      have present : members.any (·.1 == key) = true :=
        List.any_eq_true.mpr ⟨_, member, beq_self_eq_true key⟩
      constructor
      · rintro ⟨-, valid⟩
        rw [property_of_mem distinct member] at valid
        exact ⟨held, member, valid⟩
      · rintro ⟨document, other, valid⟩
        rw [property_of_mem distinct other]
        exact ⟨present, valid⟩

theorem object_iff (distinct : (members.map Prod.fst).Nodup) :
    Schema.object schemas (.object members) = true ↔
      Declared schemas members := by
  have both : Schema.object schemas (.object members) = true ↔
      ∀ entry ∈ schemas, (members.any (·.1 == entry.1)) = true ∧
        Schema.property entry.1 entry.2 (.object members) = true := by
    simp only [Schema.object, Schema.allOf, Schema.type, Schema.required,
      Schema.properties,
      List.all_cons, List.all_nil, List.all_map, List.all_eq_true,
      Bool.and_eq_true, Bool.and_true, true_and, Function.comp_apply]
    constructor
    · rintro ⟨present, valid⟩ entry member
      exact ⟨present entry member, valid entry member⟩
    · intro each
      exact ⟨fun entry member => (each entry member).1,
        fun entry member => (each entry member).2⟩
  rw [both]
  exact forall₂_congr fun entry member => required_and_property_iff distinct

theorem isObject_of_valid {others : List Schema} {document : Json}
    (valid : Schema.allOf (Schema.type .object :: others) document = true) :
    document.IsObject := by
  cases document with
  | object members => trivial
  | _ => simp [Schema.allOf, Schema.type] at valid

end Declared

namespace Record

variable {α β : Type} {codec : Codec α} {schema : Schema}
variable {fields : Record β} {schemas : List (String × Schema)}
variable {InRange : α → Prop} {Rest : β → Prop} {name : String}

theorem empty_conforms : Record.empty.Conforms [] fun _ => True where
  names := rfl
  document _ _ _ _ := by simp [Declared, Record.empty]
  encoded _ _ := by simp [Declared]

theorem Conforms.field (conforms : codec.Conforms schema InRange)
    (rest : fields.Conforms schemas Rest) :
    (Record.field name codec fields).Conforms ((name, schema) :: schemas)
      fun value => InRange value.1 ∧ Rest value.2 where
  names := by
    rw [List.map_cons, rest.names]
    rfl
  document {reader members} distinct uniques fits regular := by
    rw [Declared, List.forall_mem_cons, exists_mem_iff distinct]
    change _ ∧ Declared schemas members ↔ _
    rw [rest.document distinct uniques fits regular.2]
    simp only [Record.field]
    cases held : only name members with
    | none => simp
    | some document =>
        have member := (only_eq_some_iff distinct).mp held
        have read := conforms.document (uniques _ member) (fits _ member)
          (regular.1 _ member rfl)
        simp only [Option.some.injEq, exists_eq_left', read,
          Option.bind_eq_bind, Option.bind_some, Option.bind_eq_some_iff]
        constructor
        · rintro ⟨⟨first, one, inRange⟩, others, more, inRanges⟩
          exact ⟨(first, others), ⟨first, one, others, more, rfl⟩,
            inRange, inRanges⟩
        · rintro ⟨_, ⟨first, one, others, more, rfl⟩, inRange, inRanges⟩
          exact ⟨⟨first, one, inRange⟩, others, more, inRanges⟩
  encoded distinct value := by
    have names : (name :: fields.names).Nodup := distinct
    obtain ⟨fresh, distinct⟩ := List.nodup_cons.mp names
    have keys := fields.keys value.2
    have absent : name ∉ (fields.encode value.2).map Prod.fst := by
      rwa [keys]
    have first : (∃ document,
        (name, document) ∈ (name, codec.encode value.1) ::
          fields.encode value.2 ∧ schema document = true) ↔
        schema (codec.encode value.1) = true := by
      constructor
      · rintro ⟨document, member, valid⟩
        cases member with
        | head => exact valid
        | tail _ member => exact absurd (List.mem_map_of_mem member) absent
      · intro valid
        exact ⟨_, List.mem_cons_self, valid⟩
    rw [Declared, List.forall_mem_cons]
    change (∃ document, (name, document) ∈ (name, codec.encode value.1) ::
      fields.encode value.2 ∧ _) ∧ Declared schemas
        ((name, codec.encode value.1) :: fields.encode value.2) ↔ _
    rw [first, conforms.encoded, declared_cons (by rwa [rest.names]),
      rest.encoded distinct]

end Record

namespace Codec

variable {α β : Type} {fields : Record β} {schemas : List (String × Schema)}
variable {pack : β → α} {unpack : α → β} {InRange : β → Prop}
variable {inverse : ∀ value, pack (unpack value) = value}
variable {distinct : fields.names.Nodup}

theorem record_conforms (conforms : fields.Conforms schemas InRange)
    (back : ∀ fields, unpack (pack fields) = fields) :
    (Codec.record fields pack unpack inverse distinct).Conforms
      (Schema.object schemas)
      fun value => InRange (unpack value) where
  document {reader document} unique fit regular := by
    cases document with
    | object members =>
        obtain ⟨inner, entered, fits⟩ := Reader.enter_object fit
        have keys := unique.1
        have uniques := Json.uniqueFields_iff.mp unique.2
        rw [object_iff keys, conforms.document keys uniques fits regular]
        simp only [Codec.record, entered, Option.bind_eq_bind,
          Option.bind_some, Option.map_eq_some_iff]
        constructor
        · rintro ⟨value, read, inRange⟩
          exact ⟨pack value, ⟨value, read, rfl⟩, by rwa [back]⟩
        · rintro ⟨_, ⟨value, read, rfl⟩, inRange⟩
          exact ⟨value, read, by rwa [back] at inRange⟩
    | array items => exact regular.elim
    | _ => simp [Schema.object, Schema.allOf, Schema.type, Codec.record]
  encoded value := by
    have keys : ((fields.encode (unpack value)).map Prod.fst).Nodup := by
      rwa [fields.keys]
    exact (object_iff keys).trans (conforms.encoded distinct _)

end Codec

/-- As for a codec, where a variant always has content. -/
structure Variant.Conforms {α : Type} (variant : Variant α) (schema : Schema)
    (InRange : α → Prop) : Prop where
  absent : variant.absent = none
  document : ∀ {reader document}, document.Unique →
    reader.fits document = true → variant.Regular document →
    (schema document = true ↔
      ∃ value, variant.decode reader document = some value ∧ InRange value)

theorem Codec.Conforms.newtype {α β : Type} {codec : Codec β}
    {schema : Schema} {InRange : α → Prop} {name : String} {wrap : β → α}
    (conforms : codec.Conforms schema fun value => InRange (wrap value)) :
    (Variant.newtype name codec wrap).Conforms schema InRange where
  absent := rfl
  document unique fit regular := by
    rw [conforms.document unique fit regular]
    simp [Variant.newtype]

section Tagged

variable {α : Type} {tag content key : String} {variants : List (Variant α)}
variable {members : List (String × Json)} {reader inner : Reader}

def tagged (tag content : String) (members : List (String × Json)) :
    List (String × Json) :=
  members.filter fun member => member.1 == tag || member.1 == content

theorem only_tagged (named : key = tag ∨ key = content) :
    only key (tagged tag content members) = only key members := by
  have kept : (tagged tag content members).filter (·.1 == key) =
      members.filter (·.1 == key) := by
    rw [tagged, List.filter_filter]
    apply List.filter_congr
    intro member _
    rcases named with rfl | rfl
    · cases member.1 == key <;> simp
    · cases member.1 == key <;> simp
  rw [only, only, kept]

/-- The tag is read first; content is read after it, at once or from a
buffer. -/
theorem decodeTagged_object (apart : tag ≠ content)
    (distinct : (members.map Prod.fst).Nodup)
    (entered : reader.enter = some inner)
    (fits : ∀ member ∈ members, inner.fits member.2 = true) :
    ∃ within : Reader,
      (∀ document, only content members = some document →
        within.fits document = true) ∧
      decodeTagged tag content variants reader (.object members) = (do
        let name ← only tag members
        let variant ← Variant.read variants inner name
        match only content members with
        | none => variant.absent
        | some document => variant.decode within document) := by
  have keys : ((tagged tag content members).map Prod.fst).Nodup :=
    distinct.sublist (List.filter_sublist.map _)
  have named : ∀ member ∈ tagged tag content members,
      (member.1 = tag ∨ member.1 = content) ∧ inner.fits member.2 = true := by
    intro member kept
    obtain ⟨member, named⟩ := List.mem_filter.mp kept
    exact ⟨by simpa using named, fits _ member⟩
  have first := @only_tagged tag content tag members (.inl rfl)
  have second := @only_tagged tag content content members (.inr rfl)
  have shape : members.filter
      (fun field => field.1 == tag || field.1 == content) =
        tagged tag content members := rfl
  simp only [decodeTagged, entered, shape, ← first, ← second,
    Option.bind_eq_bind, Option.bind_some]
  clear first second shape fits distinct
  generalize tagged tag content members = kept at keys named ⊢
  rcases kept with
    _ | ⟨⟨key, one⟩, _ | ⟨⟨other, two⟩, _ | ⟨⟨third, three⟩, rest⟩⟩⟩
  · exact ⟨inner, by simp [only], by simp [only]⟩
  · obtain ⟨rfl | rfl, fit⟩ := named _ List.mem_cons_self
    · exact ⟨inner, by simp [only, apart], by simp [only, apart]⟩
    · exact ⟨inner, by simpa [only] using fit,
        by simp [only, apart.symm]⟩
  · have unequal : key ≠ other := by simpa using keys
    obtain ⟨atFirst, firstFit⟩ := named _ List.mem_cons_self
    obtain ⟨atSecond, secondFit⟩ :=
      named _ (List.mem_cons_of_mem _ List.mem_cons_self)
    rcases atFirst with rfl | rfl
    · obtain rfl : other = content := atSecond.resolve_left unequal.symm
      exact ⟨inner, by simpa [only, unequal] using secondFit,
        by simp [only, unequal, unequal.symm]⟩
    · obtain rfl : other = tag := atSecond.resolve_right unequal.symm
      have fit : inner.fits one = true := firstFit
      exact ⟨.buffer, fun _ _ => rfl,
        by simp [only, unequal, unequal.symm, fit]⟩
  · obtain ⟨atFirst, -⟩ := named _ List.mem_cons_self
    obtain ⟨atSecond, -⟩ :=
      named _ (List.mem_cons_of_mem _ List.mem_cons_self)
    obtain ⟨atThird, -⟩ := named _ (List.mem_cons_of_mem _
      (List.mem_cons_of_mem _ List.mem_cons_self))
    simp only [List.map_cons, List.nodup_cons, List.mem_cons, not_or] at keys
    grind

end Tagged

end JwSwarm.Proto
