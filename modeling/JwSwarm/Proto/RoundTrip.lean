import JwSwarm.Proto.Wire

namespace JwSwarm.Proto

open FleetManager.Wire

/-! What one side writes, either side reads. -/

private theorem gpuInfo_plain : gpuInfo.Plain 1 :=
  Record.Plain.record (.field Codec.plain_unitEnum
    (.field Codec.plain_text (.field Codec.plain_u64 Record.plain_empty)))

private theorem ownerLimits_plain : ownerLimits.Plain 1 :=
  Record.Plain.record
    (.field Codec.plain_u8 (.field Codec.plain_u64 Record.plain_empty))

private theorem metrics_plain : metrics.Plain 1 :=
  Record.Plain.record (.field Codec.plain_u64 (.field Codec.plain_u64
    (.field Codec.plain_float (.field Codec.plain_float
      (.field Codec.plain_float
        (.field Codec.plain_u32 Record.plain_empty))))))

private theorem catalogModel_plain : catalogModel.Plain 1 :=
  Record.Plain.record (.field Codec.plain_text (.field Codec.plain_text
    (.field Codec.plain_text (.field Codec.plain_text
      (.field Codec.plain_u64 (.field Codec.plain_u32
        (.field Codec.plain_float
          (.field Codec.plain_unitEnum Record.plain_empty))))))))

private theorem usage_plain : usage.Plain 1 :=
  Record.Plain.record (.field Codec.plain_u32
    (.field Codec.plain_u32 (.field Codec.plain_u32 Record.plain_empty)))

private theorem register_plain : register.Plain 2 :=
  Record.Plain.record (.field Codec.plain_text (.field Codec.plain_text
    (.field Codec.plain_unitEnum (.field gpuInfo_plain
      (.field ownerLimits_plain
        (.field Codec.plain_text.list Record.plain_empty))))))

theorem catalogResponse_plain : catalogResponse.Plain 3 :=
  Record.Plain.record (.field catalogModel_plain.list Record.plain_empty)

private theorem heartbeat_plain : heartbeat.Plain 2 :=
  Record.Plain.record (.field Codec.plain_text (.field metrics_plain
    (.field Codec.plain_unitEnum Record.plain_empty)))

private theorem modelStatus_plain : modelStatus.Plain 2 :=
  Record.Plain.record
    (.field Codec.plain_text (.field Codec.plain_text.list Record.plain_empty))

private theorem scheduleState_plain : scheduleState.Plain 1 :=
  Record.Plain.record
    (.field Codec.plain_text (.field Codec.plain_unitEnum Record.plain_empty))

private theorem tokenChunk_plain : tokenChunk.Plain 1 :=
  Record.Plain.record (.field Codec.plain_text
    (.field Codec.plain_text (.field Codec.plain_u32 Record.plain_empty)))

private theorem done_plain : done.Plain 2 :=
  Record.Plain.record
    (.field Codec.plain_text (.field usage_plain Record.plain_empty))

private theorem protoError_plain : protoError.Plain 1 :=
  Record.Plain.record
    (.field Codec.plain_text (.field Codec.plain_text Record.plain_empty))

/-- The objects of a payload are maps sorted by their keys, as its type stores
them. -/
def Storable : Message → Prop
  | .promptDispatch dispatch => dispatch.payload.Sorted
  | _ => True

def payloadDepth : Message → ℕ
  | .promptDispatch dispatch => dispatch.payload.depth
  | _ => 0

variable {α : Type} {codec : Codec α} {bound : ℕ} {name : String}
variable {wrap : α → Message}

theorem fromDocument_newtype
    (found : variants.find? (·.name == name) =
      some (.newtype name codec wrap)) (value : α) :
    fromDocument (encodeTagged "type" "payload"
        (name, some (codec.encode value))) =
      (codec.decode (.text 127) (codec.encode value)).map wrap :=
  decodeTagged_content (by decide) found

theorem fromDocument_plain (plain : codec.Plain bound) (roomy : bound < 127)
    (found : variants.find? (·.name == name) =
      some (.newtype name codec wrap)) (value : α) :
    fromDocument (encodeTagged "type" "payload"
        (name, some (codec.encode value))) = some (wrap value) := by
  rw [fromDocument_newtype found, plain.decode_encode roomy]
  rfl

/-- The envelope leaves the payload of a dispatch 125 levels. -/
theorem fromDocument_promptDispatch {dispatch : PromptDispatch}
    (sorted : dispatch.payload.Sorted) :
    fromDocument (toDocument (.promptDispatch dispatch)) =
      if dispatch.payload.depth ≤ 125 then some (.promptDispatch dispatch)
      else none := by
  refine (fromDocument_newtype rfl dispatch).trans ?_
  have read : promptDispatch.decode (.text 127)
      (promptDispatch.encode dispatch) =
        (Codec.value.decode (.text 126) dispatch.payload).map fun payload =>
          { dispatch with payload } := by
    simp only [Codec.value]
    cases fits : (Reader.text 126).fits dispatch.payload with
    | true =>
        simp [promptDispatch, Codec.record, Record.field, Record.empty, only,
          Reader.enter, Codec.text, Codec.value, Json.asStr, fits]
    | false =>
        simp [promptDispatch, Codec.record, Record.field, Record.empty, only,
          Reader.enter, Codec.text, Codec.value, Json.asStr, fits]
  have within : (Reader.text 126).fits dispatch.payload =
      decide (dispatch.payload.depth ≤ 125) :=
    decide_eq_decide.mpr Nat.lt_succ_iff
  rw [read, Codec.value]
  simp only [within, decide_eq_true_eq, sorted.canonical_eq]
  split
  · rfl
  · rfl

theorem fromDocument_toDocument {message : Message}
    (storable : Storable message) :
    fromDocument (toDocument message) =
      if payloadDepth message ≤ 125 then some message else none := by
  cases message with
  | register payload =>
      exact fromDocument_plain register_plain (by decide) rfl _
  | catalogRequest => rfl
  | heartbeat payload =>
      exact fromDocument_plain heartbeat_plain (by decide) rfl _
  | modelStatus payload =>
      exact fromDocument_plain modelStatus_plain (by decide) rfl _
  | scheduleState payload =>
      exact fromDocument_plain scheduleState_plain (by decide) rfl _
  | tokenChunk payload =>
      exact fromDocument_plain tokenChunk_plain (by decide) rfl _
  | done payload => exact fromDocument_plain done_plain (by decide) rfl _
  | error payload => exact fromDocument_plain protoError_plain (by decide) rfl _
  | catalogResponse payload =>
      exact fromDocument_plain catalogResponse_plain (by decide) rfl _
  | promptDispatch payload => exact fromDocument_promptDispatch storable

theorem toDocument_eq : LinuxNode.Wire.toDocument = toDocument :=
  rfl

theorem fromDocument_eq : LinuxNode.Wire.fromDocument = fromDocument :=
  rfl

variable {text : JsonText} {message : Message}

theorem fromJson_toJson_eq (storable : Storable message)
    (reads : text.parse (text.print (toDocument message)) =
      some (toDocument message)) :
    fromJson text (toJson text message) =
      if payloadDepth message ≤ 125 then some message else none := by
  rw [fromJson, toJson, reads, Option.bind_some,
    fromDocument_toDocument storable]

/-- What either side writes, either side reads, unless a payload is nested too
deep. -/
theorem fromJson_toJson (storable : Storable message)
    (reads : text.parse (text.print (toDocument message)) =
      some (toDocument message)) :
    let outcome := if payloadDepth message ≤ 125 then some message else none
    fromJson text (toJson text message) = outcome ∧
      fromJson text (LinuxNode.Wire.toJson text message) = outcome ∧
      LinuxNode.Wire.fromJson text (toJson text message) = outcome ∧
      LinuxNode.Wire.fromJson text (LinuxNode.Wire.toJson text message) =
        outcome := by
  have read := fromJson_toJson_eq storable reads
  exact ⟨read, read, read, read⟩

def printing (json : String) (document : Json) : JsonText where
  print _ := json
  parse text := if text = json then some document else none

theorem printing_reads (json : String) (document : Json) :
    (printing json document).parse ((printing json document).print document) =
      some document :=
  if_pos rfl

private def dispatchOf (payload : Json) : Message :=
  .promptDispatch { requestId := "r", model := "m", payload }

private def dispatchJson (payload : String) : String :=
  "\x7b\"type\":\"PromptDispatch\",\"payload\":\x7b\"request_id\":\"r\"," ++
    "\"model\":\"m\",\"payload\":" ++ payload ++ "\x7d\x7d"

theorem fromJson_toJson_stream :
    let message := dispatchOf (.object [("stream", .bool true)])
    let text := printing (dispatchJson "\x7b\"stream\":true\x7d")
      (toDocument message)
    let outcome := if payloadDepth message ≤ 125 then some message else none
    fromJson text (toJson text message) = outcome ∧
      fromJson text (LinuxNode.Wire.toJson text message) = outcome ∧
      LinuxNode.Wire.fromJson text (toJson text message) = outcome ∧
      LinuxNode.Wire.fromJson text (LinuxNode.Wire.toJson text message) =
        outcome :=
  fromJson_toJson ⟨List.pairwise_singleton _ _, trivial, trivial⟩
    (printing_reads _ _)

private def nested : ℕ → Json
  | 0 => .null
  | depth + 1 => .array [nested depth]

private theorem depth_nested (depth : ℕ) : (nested depth).depth = depth := by
  induction depth with
  | zero => rfl
  | succ depth ih => simp [nested, Json.depth, Json.depthItems, ih]

private theorem unique_nested (depth : ℕ) : (nested depth).Unique := by
  induction depth with
  | zero => trivial
  | succ depth ih => exact ⟨ih, trivial⟩

private theorem sorted_nested (depth : ℕ) : (nested depth).Sorted := by
  induction depth with
  | zero => trivial
  | succ depth ih => exact ⟨ih, trivial⟩

private def nestedJson (depth : ℕ) : String :=
  String.ofList (List.replicate depth '[' ++ "null".toList ++
    List.replicate depth ']')

/-- A payload of 126 levels is sent and not read. -/
theorem deep_payload_refused :
    let message := dispatchOf (nested 126)
    let text := printing (dispatchJson (nestedJson 126)) (toDocument message)
    (nested 126).Unique ∧
      LinuxNode.Wire.fromJson text (toJson text message) ≠ some message := by
  intro message text
  refine ⟨unique_nested 126, ?_⟩
  have refused : fromJson text (toJson text message) =
      if (nested 126).depth ≤ 125 then some message else none :=
    fromJson_toJson_eq (sorted_nested 126) (printing_reads _ _)
  rw [depth_nested] at refused
  have read : LinuxNode.Wire.fromJson text (toJson text message) = none :=
    refused
  rw [read]
  nofun

end JwSwarm.Proto
