import Mathlib.Algebra.Order.Ring.Rat
import Mathlib.Data.Nat.Cast.Order.Ring
import Mathlib.Tactic.MkIffOfInductiveProp
import JwSwarm.Proto.Conforms
import JwSwarm.Proto.RoundTrip
import JwSwarm.Proto.Schema

namespace JwSwarm.Proto

open FleetManager

/-! The schema and the derived codecs, type by type. The schema bounds some
numbers that the declared types do not. -/

section Numbers

variable {bound : ℚ} {document : Json}

theorem integerFrom_iff : Schema.integerFrom bound document = true ↔
    ∃ number : Number, document = .number number ∧ number.toRat.den = 1 ∧
      bound ≤ number.toRat := by
  cases document with
  | number number =>
      simp [Schema.integerFrom, Schema.allOf, Schema.type, Schema.minimum]
  | _ => simp [Schema.integerFrom, Schema.allOf, Schema.type]

private theorem numberFrom_iff : Schema.numberFrom bound document = true ↔
    ∃ number : Number, document = .number number ∧
      bound ≤ number.toRat := by
  cases document with
  | number number =>
      simp [Schema.numberFrom, Schema.allOf, Schema.type, Schema.minimum]
  | _ => simp [Schema.numberFrom, Schema.allOf, Schema.type]

theorem u64_conforms :
    Codec.u64.Conforms (Schema.integerFrom 0) fun _ => True := by
  have conforms : Codec.u64.Conforms (Schema.integerFrom 0)
      fun value => (0 : ℚ) ≤ value.toNat :=
    Codec.unsigned_conforms (fun _ => integerFrom_iff) (fun _ => id)
      fun _ => UInt64.toNat_ofNat_of_lt'
  exact conforms.congr fun _ => iff_true_intro (Nat.cast_nonneg _)

theorem u32_conforms :
    Codec.u32.Conforms (Schema.integerFrom 0) fun _ => True := by
  have conforms : Codec.u32.Conforms (Schema.integerFrom 0)
      fun value => (0 : ℚ) ≤ value.toNat :=
    Codec.unsigned_conforms (fun _ => integerFrom_iff) (fun _ => id)
      fun _ => UInt32.toNat_ofNat_of_lt'
  exact conforms.congr fun _ => iff_true_intro (Nat.cast_nonneg _)

private theorem length_conforms :
    Codec.u32.Conforms (Schema.integerFrom 1) fun value => 1 ≤ value := by
  have conforms : Codec.u32.Conforms (Schema.integerFrom 1)
      fun value => (1 : ℚ) ≤ value.toNat :=
    Codec.unsigned_conforms (fun _ => integerFrom_iff)
      (fun _ inside => zero_le_one.trans inside)
      fun _ => UInt32.toNat_ofNat_of_lt'
  apply conforms.congr
  intro value
  rw [UInt32.le_iff_toNat_le]
  exact Nat.one_le_cast

private theorem percent_conforms :
    Codec.u8.Conforms
      (Schema.allOf [Schema.type .integer, Schema.minimum 0,
        Schema.maximum 100])
      fun value => value ≤ 100 := by
  have conforms : Codec.u8.Conforms
      (Schema.allOf [Schema.type .integer, Schema.minimum 0,
        Schema.maximum 100])
      fun value => 0 ≤ (value.toNat : ℚ) ∧ (value.toNat : ℚ) ≤ 100 := by
    refine Codec.unsigned_conforms
      (P := fun number => 0 ≤ number ∧ number ≤ 100) ?_
      (fun _ inside => inside.1) fun _ => UInt8.toNat_ofNat_of_lt'
    intro document
    cases document with
    | number number =>
        simp [Schema.allOf, Schema.type, Schema.minimum, Schema.maximum]
    | _ => simp [Schema.allOf, Schema.type]
  apply conforms.congr
  intro value
  have nonneg : 0 ≤ (value.toNat : ℚ) := Nat.cast_nonneg _
  rw [UInt8.le_iff_toNat_le, and_iff_right nonneg]
  exact Nat.cast_le_ofNat

theorem measure_conforms :
    Codec.float.Conforms (Schema.numberFrom 0) fun value => 0 ≤ value :=
  Codec.float_conforms fun _ => numberFrom_iff

private theorem share_conforms :
    Codec.float.Conforms
      (Schema.allOf [Schema.type .number, Schema.minimum 0,
        Schema.maximum 100])
      fun value => 0 ≤ value ∧ value ≤ 100 := by
  apply Codec.float_conforms
  intro document
  cases document with
  | number number =>
      simp [Schema.allOf, Schema.type, Schema.minimum, Schema.maximum]
  | _ => simp [Schema.allOf, Schema.type]

end Numbers

theorem scheduleStateValue_conforms :
    Wire.scheduleStateValue.Conforms Schema.scheduleStateValue fun _ => True :=
  Codec.unitEnum_conforms rfl

private theorem gpuVendor_conforms :
    Wire.gpuVendor.Conforms Schema.gpuVendor fun _ => True :=
  Codec.unitEnum_conforms rfl

private theorem osKind_conforms :
    Wire.osKind.Conforms Schema.osKind fun _ => True :=
  Codec.unitEnum_conforms rfl

private theorem backend_conforms :
    Wire.backend.Conforms Schema.backend fun _ => True :=
  Codec.unitEnum_conforms rfl

def OwnerLimits.InRange (limits : OwnerLimits) : Prop :=
  limits.gpuPowerPct ≤ 100

@[mk_iff]
structure Metrics.InRange (metrics : Metrics) : Prop where
  gpuUtilPct : 0 ≤ metrics.gpuUtilPct ∧ metrics.gpuUtilPct ≤ 100
  tps : 0 ≤ metrics.tps
  latencyMs : 0 ≤ metrics.latencyMs

@[mk_iff]
structure CatalogModel.InRange (model : CatalogModel) : Prop where
  contextLength : 1 ≤ model.contextLength
  paramsBillions : 0 ≤ model.paramsBillions

private theorem gpuInfo_conforms :
    Wire.gpuInfo.Conforms Schema.gpuInfo fun _ => True :=
  (Codec.record_conforms (.field gpuVendor_conforms
    (.field Codec.text_conforms (.field u64_conforms Record.empty_conforms)))
    fun _ => rfl).congr fun _ => by simp

private theorem ownerLimits_conforms :
    Wire.ownerLimits.Conforms Schema.ownerLimits OwnerLimits.InRange :=
  (Codec.record_conforms
    (.field percent_conforms (.field u64_conforms Record.empty_conforms))
    fun _ => rfl).congr fun _ => by simp [OwnerLimits.InRange]

private theorem metrics_conforms :
    Wire.metrics.Conforms Schema.metrics Metrics.InRange :=
  (Codec.record_conforms (.field u64_conforms (.field u64_conforms
    (.field share_conforms (.field measure_conforms
      (.field measure_conforms
        (.field u32_conforms Record.empty_conforms))))))
    fun _ => rfl).congr fun _ => by simp [Metrics.inRange_iff]

private theorem catalogModel_conforms :
    Wire.catalogModel.Conforms Schema.catalogModel CatalogModel.InRange :=
  (Codec.record_conforms (.field Codec.text_conforms
    (.field Codec.text_conforms (.field Codec.text_conforms
      (.field Codec.text_conforms (.field u64_conforms
        (.field length_conforms (.field measure_conforms
          (.field backend_conforms Record.empty_conforms))))))))
    fun _ => rfl).congr fun _ => by simp [CatalogModel.inRange_iff]

private theorem usage_conforms :
    Wire.usage.Conforms Schema.usage fun _ => True :=
  (Codec.record_conforms (.field u32_conforms
    (.field u32_conforms (.field u32_conforms Record.empty_conforms)))
    fun _ => rfl).congr fun _ => by simp

theorem register_conforms :
    Wire.register.Conforms Schema.register fun payload =>
      payload.limits.InRange :=
  (Codec.record_conforms (.field Codec.text_conforms
    (.field Codec.text_conforms (.field osKind_conforms
      (.field gpuInfo_conforms (.field ownerLimits_conforms
        (.field Codec.text_conforms.list Record.empty_conforms))))))
    fun _ => rfl).congr fun _ => by simp

theorem catalogResponse_conforms :
    Wire.catalogResponse.Conforms Schema.catalogResponse fun payload =>
      ∀ model ∈ payload.models, model.InRange :=
  (Codec.record_conforms
    (.field catalogModel_conforms.list Record.empty_conforms)
    fun _ => rfl).congr fun _ => by simp

theorem heartbeat_conforms :
    Wire.heartbeat.Conforms Schema.heartbeat fun payload =>
      payload.metrics.InRange :=
  (Codec.record_conforms (.field Codec.text_conforms
    (.field metrics_conforms
      (.field scheduleStateValue_conforms Record.empty_conforms)))
    fun _ => rfl).congr fun _ => by simp

theorem modelStatus_conforms :
    Wire.modelStatus.Conforms Schema.modelStatus fun _ => True :=
  (Codec.record_conforms (.field Codec.text_conforms
    (.field Codec.text_conforms.list Record.empty_conforms))
    fun _ => rfl).congr fun _ => by simp

theorem scheduleState_conforms :
    Wire.scheduleState.Conforms Schema.scheduleState fun _ => True :=
  (Codec.record_conforms (.field Codec.text_conforms
    (.field scheduleStateValue_conforms Record.empty_conforms))
    fun _ => rfl).congr fun _ => by simp

theorem promptDispatch_conforms :
    Wire.promptDispatch.Conforms Schema.promptDispatch fun payload =>
      payload.payload.IsObject :=
  (Codec.record_conforms (.field Codec.text_conforms
    (.field Codec.text_conforms
      (.field Codec.value_conforms Record.empty_conforms)))
    fun _ => rfl).congr fun _ => by simp

theorem tokenChunk_conforms :
    Wire.tokenChunk.Conforms Schema.tokenChunk fun _ => True :=
  (Codec.record_conforms (.field Codec.text_conforms
    (.field Codec.text_conforms (.field u32_conforms Record.empty_conforms)))
    fun _ => rfl).congr fun _ => by simp

theorem done_conforms : Wire.done.Conforms Schema.done fun _ => True :=
  (Codec.record_conforms (.field Codec.text_conforms
    (.field usage_conforms Record.empty_conforms))
    fun _ => rfl).congr fun _ => by simp

theorem protoError_conforms :
    Wire.protoError.Conforms Schema.error fun _ => True :=
  (Codec.record_conforms (.field Codec.text_conforms
    (.field Codec.text_conforms Record.empty_conforms))
    fun _ => rfl).congr fun _ => by simp

/-- The numbers are within the schema's bounds and the payload of a dispatch is
an object. -/
def Message.InRange : Message → Prop
  | .register payload => payload.limits.InRange
  | .heartbeat payload => payload.metrics.InRange
  | .catalogResponse payload => ∀ model ∈ payload.models, model.InRange
  | .promptDispatch payload => payload.payload.IsObject
  | _ => True

/-- A document that uses none of the readers' leniencies: records are objects,
names of variants are texts, and integers fit and are written as integers. The
request for the catalog is left out. -/
def Regular : Json → Prop
  | .object members =>
      (∀ name, ("type", name) ∈ members →
        ¬ name.IsObject ∧ name ≠ .string "CatalogRequest") ∧
      ∀ variant ∈ Wire.variants,
        ("type", .string variant.name) ∈ members →
        ∀ payload, ("payload", payload) ∈ members → variant.Regular payload
  | .array _ => False
  | _ => True

section Envelope

variable {members : List (String × Json)} {name : String} {schema : Schema}
variable {document : Json}

theorem contents_nodup : (Schema.contents.map Prod.fst).Nodup := by
  decide

private theorem contents_isObject : ∀ entry ∈ Schema.contents, ∀ document,
    entry.2 document = true → document.IsObject := by
  simp only [Schema.contents, List.forall_mem_cons, List.not_mem_nil,
    false_implies, implies_true, and_true]
  exact ⟨fun _ => isObject_of_valid, fun _ => isObject_of_valid,
    fun _ => isObject_of_valid, fun _ => isObject_of_valid,
    fun _ => isObject_of_valid, fun _ => isObject_of_valid,
    fun _ => isObject_of_valid, fun _ => isObject_of_valid,
    fun _ => isObject_of_valid, fun _ => isObject_of_valid⟩

private theorem envelope_object (distinct : (members.map Prod.fst).Nodup) :
    Schema.envelope (.object members) = true ↔
      Declared [("type", Schema.allOf [Schema.type .string,
          Schema.enum (Schema.contents.map Prod.fst)]),
        ("payload", Schema.type .object)] members ∧
      ∀ entry ∈ Schema.contents,
        Schema.property "type" (Schema.const entry.1) (.object members) =
            true →
          Schema.property "payload" entry.2 (.object members) = true := by
  rw [← object_iff distinct]
  simp [Schema.envelope, Schema.allOf, Schema.ifThen, Schema.properties,
    or_iff_not_imp_left]

private theorem string_of_enum {names : List String}
    (valid : Schema.allOf [Schema.type .string, Schema.enum names] document =
      true) : ∃ name ∈ names, document = .string name := by
  cases document with
  | string name =>
      have known : name ∈ names := by
        simpa [Schema.allOf, Schema.type, Schema.enum] using valid
      exact ⟨name, known, rfl⟩
  | _ => simp [Schema.allOf, Schema.type] at valid

theorem envelope_object_iff (distinct : (members.map Prod.fst).Nodup) :
    Schema.envelope (.object members) = true ↔
      ∃ entry ∈ Schema.contents, ("type", .string entry.1) ∈ members ∧
        ∃ payload, ("payload", payload) ∈ members ∧
          entry.2 payload = true := by
  rw [envelope_object distinct]
  constructor
  · rintro ⟨declared, conditions⟩
    obtain ⟨tag, tagged, known⟩ := declared _ List.mem_cons_self
    obtain ⟨payload, held, -⟩ :=
      declared _ (List.mem_cons_of_mem _ List.mem_cons_self)
    obtain ⟨name, named, rfl⟩ := string_of_enum known
    obtain ⟨entry, listed, rfl⟩ := List.mem_map.mp named
    refine ⟨entry, listed, tagged, payload, held, ?_⟩
    have content : Schema.property "payload" entry.2 (.object members) =
        entry.2 payload := property_of_mem distinct held
    have condition : Schema.property "type" (Schema.const entry.1)
        (.object members) = true :=
      (property_of_mem distinct tagged).trans (beq_self_eq_true entry.1)
    rw [← content]
    exact conditions entry listed condition
  · rintro ⟨entry, listed, tagged, payload, held, valid⟩
    have object : Schema.type .object payload = true := by
      have isObject := contents_isObject entry listed payload valid
      cases payload with
      | object fields => rfl
      | _ => exact isObject.elim
    constructor
    · have named := List.mem_map_of_mem (f := Prod.fst) listed
      refine List.forall_mem_cons.mpr ⟨?_, List.forall_mem_singleton.mpr ?_⟩
      · exact ⟨_, tagged,
          by simpa [Schema.allOf, Schema.type, Schema.enum] using named⟩
      · exact ⟨payload, held, object⟩
    · intro other otherListed condition
      rw [property_of_mem distinct tagged] at condition
      have same : entry.1 = other.1 := eq_of_beq condition
      obtain rfl : entry = other :=
        List.inj_on_of_nodup_map contents_nodup listed otherListed same
      rwa [property_of_mem distinct held]

theorem variants_conform : ∀ entry ∈ Schema.contents,
    entry.1 ≠ "CatalogRequest" →
    ∃ variant, Wire.variants.find? (·.name == entry.1) = some variant ∧
      variant.Conforms entry.2 Message.InRange := by
  simp only [Schema.contents, List.forall_mem_cons, List.not_mem_nil,
    false_implies, implies_true, and_true]
  exact ⟨fun _ => ⟨_, rfl, Codec.Conforms.newtype register_conforms⟩,
    fun other => absurd rfl other,
    fun _ => ⟨_, rfl, Codec.Conforms.newtype catalogResponse_conforms⟩,
    fun _ => ⟨_, rfl, Codec.Conforms.newtype heartbeat_conforms⟩,
    fun _ => ⟨_, rfl, Codec.Conforms.newtype modelStatus_conforms⟩,
    fun _ => ⟨_, rfl, Codec.Conforms.newtype scheduleState_conforms⟩,
    fun _ => ⟨_, rfl, Codec.Conforms.newtype promptDispatch_conforms⟩,
    fun _ => ⟨_, rfl, Codec.Conforms.newtype tokenChunk_conforms⟩,
    fun _ => ⟨_, rfl, Codec.Conforms.newtype done_conforms⟩,
    fun _ => ⟨_, rfl, Codec.Conforms.newtype protoError_conforms⟩⟩

private theorem read_conforms {reader : Reader} {tag : Json}
    {variant : Variant Message}
    (regular : ¬ tag.IsObject ∧ tag ≠ .string "CatalogRequest")
    (found : Variant.read Wire.variants reader tag = some variant) :
    variant ∈ Wire.variants ∧ tag = .string variant.name ∧
      ∃ schema, (variant.name, schema) ∈ Schema.contents ∧
        variant.Conforms schema Message.InRange := by
  cases tag with
  | object fields => exact absurd trivial regular.1
  | string name =>
      have known : Wire.variants.find? (·.name == name) = some variant := found
      obtain rfl : variant.name = name := by
        simpa using List.find?_some known
      have member := List.mem_of_find?_eq_some known
      have listed : ∀ name ∈ Wire.variants.map Variant.name,
          name ∈ Schema.contents.map Prod.fst := by
        decide
      obtain ⟨entry, listed, same⟩ :=
        List.mem_map.mp (listed _ (List.mem_map_of_mem member))
      have other : entry.1 ≠ "CatalogRequest" := by
        intro request
        exact regular.2 (congrArg Json.string (same.symm.trans request))
      obtain ⟨found, first, conforms⟩ := variants_conform entry listed other
      rw [same, known] at first
      cases first
      exact ⟨member, rfl, entry.2, same ▸ listed, conforms⟩
  | _ => simp [Variant.read] at found

theorem envelope_encodeTagged {α : Type} {codec : Codec α} {InRange : α → Prop}
    (conforms : codec.Conforms schema InRange)
    (listed : (name, schema) ∈ Schema.contents) (value : α) :
    Schema.envelope (encodeTagged "type" "payload"
        (name, some (codec.encode value))) = true ↔ InRange value := by
  have distinct : ([("type", .string name), ("payload", codec.encode value)].map
      (Prod.fst : String × Json → String)).Nodup := by
    simp
  refine (envelope_object_iff distinct).trans ?_
  rw [← conforms.encoded]
  constructor
  · rintro ⟨other, otherListed, tagged, payload, held, valid⟩
    have same : other.1 = name := by simpa using tagged
    obtain rfl : other = (name, schema) :=
      List.inj_on_of_nodup_map contents_nodup otherListed listed same
    obtain rfl : payload = codec.encode value := by simpa using held
    exact valid
  · intro valid
    exact ⟨_, listed, by simp, _, by simp, valid⟩

theorem envelope_toDocument {message : Message}
    (content : message ≠ .catalogRequest) :
    Schema.envelope (Wire.toDocument message) = true ↔ message.InRange := by
  cases message with
  | register payload =>
      exact envelope_encodeTagged register_conforms
        (by simp [Schema.contents]) payload
  | catalogRequest => exact absurd rfl content
  | heartbeat payload =>
      exact envelope_encodeTagged heartbeat_conforms
        (by simp [Schema.contents]) payload
  | modelStatus payload =>
      exact envelope_encodeTagged modelStatus_conforms
        (by simp [Schema.contents]) payload
  | scheduleState payload =>
      exact envelope_encodeTagged scheduleState_conforms
        (by simp [Schema.contents]) payload
  | tokenChunk payload =>
      exact envelope_encodeTagged tokenChunk_conforms
        (by simp [Schema.contents]) payload
  | done payload =>
      exact envelope_encodeTagged done_conforms
        (by simp [Schema.contents]) payload
  | error payload =>
      exact envelope_encodeTagged protoError_conforms
        (by simp [Schema.contents]) payload
  | catalogResponse payload =>
      exact envelope_encodeTagged catalogResponse_conforms
        (by simp [Schema.contents]) payload
  | promptDispatch payload =>
      exact envelope_encodeTagged promptDispatch_conforms
        (by simp [Schema.contents]) payload

private theorem envelope_iff (unique : document.Unique)
    (regular : Regular document) (fit : document.depth ≤ 127) :
    Schema.envelope document = true ↔
      ∃ message, Wire.fromDocument document = some message ∧
        message.InRange := by
  cases document with
  | object members =>
      obtain ⟨inner, entered, fits⟩ := @Reader.enter_object (.text 128) members
        (decide_eq_true (Nat.lt_succ_of_le fit))
      obtain ⟨within, contentFits, read⟩ :=
        @decodeTagged_object Message "type" "payload" Wire.variants members
          (.text 128) inner (by decide) unique.1 entered fits
      have uniques := Json.uniqueFields_iff.mp unique.2
      have held : ∀ {key document}, only key members = some document ↔
          (key, document) ∈ members := only_eq_some_iff unique.1
      rw [envelope_object_iff unique.1, Wire.fromDocument, read]
      constructor
      · rintro ⟨entry, listed, tagged, payload, content, valid⟩
        have request : entry.1 ≠ "CatalogRequest" := by
          intro request
          exact (regular.1 _ tagged).2 (congrArg Json.string request)
        obtain ⟨variant, found, conforms⟩ :=
          variants_conform entry listed request
        have same : variant.name = entry.1 := by
          simpa using List.find?_some found
        have valueRegular := regular.2 variant
          (List.mem_of_find?_eq_some found) (same ▸ tagged) payload content
        have contentHeld := held.mpr content
        obtain ⟨message, decoded, inRange⟩ :=
          (conforms.document (uniques _ content)
            (contentFits payload contentHeld) valueRegular).mp valid
        refine ⟨message, ?_, inRange⟩
        simp [held.mpr tagged, contentHeld, Variant.read, found, decoded]
      · rintro ⟨message, decoded, inRange⟩
        simp only [Option.bind_eq_bind, Option.bind_eq_some_iff] at decoded
        obtain ⟨tag, tagHeld, variant, found, decoded⟩ := decoded
        have tagged := held.mp tagHeld
        obtain ⟨member, rfl, schema, listed, conforms⟩ :=
          read_conforms (regular.1 tag tagged) found
        cases contentHeld : only "payload" members with
        | none => simp [contentHeld, conforms.absent] at decoded
        | some payload =>
            have content := held.mp contentHeld
            rw [contentHeld] at decoded
            have valid := (conforms.document (uniques _ content)
              (contentFits payload contentHeld)
              (regular.2 variant member tagged payload content)).mpr
              ⟨message, decoded, inRange⟩
            exact ⟨_, listed, tagged, payload, content, valid⟩
  | array items => exact regular.elim
  | _ =>
      simp [Schema.envelope, Schema.object, Schema.allOf, Schema.type,
        Wire.fromDocument, decodeTagged]

end Envelope

/-- The codec reads the valid documents among the regular ones, with numbers in
range; it writes a valid document for a message in range. -/
theorem fromJson_conforms (text : JsonText) :
    (∀ json document, text.parse json = some document →
      document.Unique → document.depth ≤ 127 → Regular document →
      (Schema.envelope document = true ↔
        ∃ message, Wire.fromJson text json = some message ∧
          message.InRange)) ∧
    ∀ message, message ≠ .catalogRequest →
      (Schema.envelope (Wire.toDocument message) = true ↔
        message.InRange) := by
  constructor
  · intro json document parsed unique fit regular
    rw [envelope_iff unique regular fit, Wire.fromJson, parsed,
      Option.bind_some]
  · intro message content
    exact envelope_toDocument content

private def chunkOf (index : UInt32) : Message :=
  .tokenChunk { requestId := "r", delta := "d", index }

private def chunkJson (index : String) : String :=
  "\x7b\"type\":\"TokenChunk\",\"payload\":\x7b\"request_id\":\"r\"," ++
    "\"delta\":\"d\",\"index\":" ++ index ++ "\x7d\x7d"

private def chunkDocument (index : Number) : Json :=
  .object [("type", .string "TokenChunk"),
    ("payload", .object [("request_id", .string "r"), ("delta", .string "d"),
      ("index", .number index)])]

private theorem chunkDocument_unique {index : Number} :
    (chunkDocument index).Unique := by
  simp [chunkDocument, Json.Unique, Json.UniqueFields]

private theorem chunkDocument_regular : Regular
    (chunkDocument (.posInt 3)) := by
  refine ⟨by simp [Json.IsObject], ?_⟩
  intro variant member tagged payload held
  have chunks : ∀ variant ∈ Wire.variants, variant.name = "TokenChunk" →
      variant.Regular = Wire.tokenChunk.Regular := by
    simp [Wire.variants, Variant.newtype, Variant.unit]
  have named : variant.name = "TokenChunk" := by simpa using tagged
  rw [chunks variant member named]
  obtain rfl : payload = .object [("request_id", .string "r"),
      ("delta", .string "d"), ("index", .number (.posInt 3))] := by
    simpa using held
  refine ⟨fun _ _ _ => trivial, fun _ _ _ => trivial, ?_, trivial⟩
  rintro ⟨_, document⟩ member rfl
  obtain rfl : document = .number (.posInt 3) := by simpa using member
  show (3 : UInt64).toNat < 2 ^ 32
  decide

theorem fromJson_conforms_chunk :
    let document := Wire.toDocument (chunkOf 3)
    let text := printing (chunkJson "3") document
    (Schema.envelope document = true ↔
      ∃ message, Wire.fromJson text (chunkJson "3") = some message ∧
        message.InRange) ∧
    (Schema.envelope document = true ↔ (chunkOf 3).InRange) :=
  have conforms := fromJson_conforms
    (printing (chunkJson "3") (Wire.toDocument (chunkOf 3)))
  ⟨conforms.1 _ _ (printing_reads _ _) chunkDocument_unique (by decide)
      chunkDocument_regular,
    conforms.2 _ nofun⟩

def registering (gpuPowerPct : UInt8) : Message :=
  .register
    { nodeId := "n", hostname := "h", os := .linux,
      gpu := { vendor := .nvidia, name := "g", vramMb := 8192 },
      limits := { gpuPowerPct, memoryLimitMb := 4096 },
      selectedModels := [] }

private def registeringJson (gpuPowerPct : String) : String :=
  "\x7b\"type\":\"Register\",\"payload\":\x7b\"node_id\":\"n\"," ++
    "\"hostname\":\"h\",\"os\":\"linux\",\"gpu\":" ++
    "\x7b\"vendor\":\"nvidia\",\"name\":\"g\",\"vram_mb\":8192\x7d," ++
    "\"limits\":\x7b\"gpu_power_pct\":" ++ gpuPowerPct ++
    ",\"memory_limit_mb\":4096\x7d,\"selected_models\":[]\x7d\x7d"

/-- A percentage above the maximum is read, and written back; so is content that
comes as an array. An integer with a decimal point is valid and not read, and
the request for the catalog is written without the content that is required. -/
theorem power_limit_unchecked :
    (let document := Wire.toDocument (registering 150)
     let text := printing (registeringJson "150") document
     Wire.fromJson text (registeringJson "150") = some (registering 150) ∧
       Wire.toJson text (registering 150) = registeringJson "150" ∧
       Schema.envelope document = false) ∧
    (let document := Json.object [("type", .string "TokenChunk"),
      ("payload", .array [.string "r", .string "d", .number (.posInt 3)])]
     Wire.fromDocument document = some (chunkOf 3) ∧
       Schema.envelope document = false) ∧
    (let document := chunkDocument (.float 1)
     Wire.fromDocument document = none ∧ Schema.envelope document = true) ∧
    Schema.envelope (Wire.toDocument .catalogRequest) = false := by
  have outside : ¬ (registering 150).InRange := by
    change ¬ (150 : UInt8) ≤ 100
    decide
  have stored : Storable (registering 150) := trivial
  refine ⟨⟨fromJson_toJson_eq stored (printing_reads _ _), rfl, ?_⟩,
    ⟨rfl, by decide⟩, ⟨rfl, by decide⟩, by decide⟩
  have written := @envelope_toDocument (registering 150) nofun
  exact Bool.eq_false_iff.mpr (mt written.mp outside)

end JwSwarm.Proto
