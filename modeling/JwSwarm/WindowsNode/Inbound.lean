import JwSwarm.Proto.RoundTrip
import JwSwarm.Proto.SchemaLanguage

namespace JwSwarm.WindowsNode.Inbound

open Proto (Json Message)

/-! What the Windows node makes of a message. A property of a reference type
may be null, and one that is missing keeps its default. -/

structure CatalogModel where
  id : Option String
  displayName : Option String
  downloadUrl : Option String
  sha256 : Option String
  sizeBytes : UInt64
  contextLength : UInt32
  paramsBillions : ℚ
  backend : Option String

structure CatalogResponse where
  models : Option (List (Option CatalogModel))

/-- The payload of a dispatch is undefined where it is missing. -/
structure PromptDispatch where
  requestId : Option String
  model : Option String
  payload : Option Json

structure InboundMessage where
  type : String
  payload : Option Json

def readString : Json → Option (Option String)
  | .string value => some (some value)
  | .null => some none
  | _ => none

def readUlong : Json → Option UInt64
  | .number (.posInt value) => some value
  | _ => none

def readUint : Json → Option UInt32
  | .number (.posInt value) =>
      if value.toNat < 2 ^ 32 then some value.toUInt32 else none
  | _ => none

def readDouble : Json → Option ℚ
  | .number number => some number.toRat
  | _ => none

def readList {α : Type} (read : Json → Option α) :
    Json → Option (Option (List α))
  | .array items => (items.mapM read).map some
  | .null => some none
  | _ => none

/-- Each occurrence of a property is read, the last one is kept. -/
def property {α : Type} (read : Json → Option α) (absent : α) (name : String)
    (fields : List (String × Json)) : Option α :=
  (fields.filter (·.1 == name)).foldlM (fun _ field => read field.2) absent

def readModel (fields : List (String × Json)) : Option CatalogModel := do
  let id ← property readString (some "") "id" fields
  let displayName ← property readString (some "") "display_name" fields
  let downloadUrl ← property readString (some "") "download_url" fields
  let sha256 ← property readString (some "") "sha256" fields
  let sizeBytes ← property readUlong 0 "size_bytes" fields
  let contextLength ← property readUint 0 "context_length" fields
  let paramsBillions ← property readDouble 0 "params_billions" fields
  let backend ← property readString (some "vllm") "backend" fields
  some ⟨id, displayName, downloadUrl, sha256, sizeBytes, contextLength,
    paramsBillions, backend⟩

def readCatalogModel : Json → Option (Option CatalogModel)
  | .object fields => (readModel fields).map some
  | .null => some none
  | _ => none

/-- A payload of `null` is refused. -/
def readCatalogResponse : Json → Option CatalogResponse
  | .object fields => do
      let models ←
        property (readList readCatalogModel) (some []) "models" fields
      some ⟨models⟩
  | _ => none

def readPromptDispatch : Json → Option PromptDispatch
  | .object fields => do
      let requestId ← property readString (some "") "request_id" fields
      let model ← property readString (some "") "model" fields
      let payload ← property (some ∘ some) none "payload" fields
      some ⟨requestId, model, payload⟩
  | _ => none

def tryGetProperty (name : String) (fields : List (String × Json)) :
    Option Json :=
  (fields.reverse.find? (·.1 == name)).map Prod.snd

/-- A text may be nested 64 deep. -/
def parse (document : Json) : Option InboundMessage :=
  if document.depth ≤ 64 then
    match document with
    | .object fields => do
        let type ← (tryGetProperty "type" fields).bind Json.asStr
        some ⟨type, tryGetProperty "payload" fields⟩
    | _ => none
  else none

inductive Received where
  | catalog (response : CatalogResponse)
  | prompt (dispatch : PromptDispatch)
  | nothing

/-- An error of the Fleet Manager's calls for nothing. -/
def act (inbound : InboundMessage) : Received :=
  match inbound.type with
  | "CatalogResponse" =>
      match inbound.payload.bind readCatalogResponse with
      | some response => .catalog response
      | none => .nothing
  | "PromptDispatch" =>
      match inbound.payload.bind readPromptDispatch with
      | some dispatch => .prompt dispatch
      | none => .nothing
  | _ => .nothing

/-- What cannot be read is dropped. -/
def onMessage (document : Json) : Received :=
  match parse document with
  | some inbound => act inbound
  | none => .nothing

def modelSent (model : Proto.CatalogModel) : CatalogModel where
  id := some model.id
  displayName := some model.displayName
  downloadUrl := some model.downloadUrl
  sha256 := some model.sha256
  sizeBytes := model.sizeBytes
  contextLength := model.contextLength
  paramsBillions := model.paramsBillions
  backend := some (FleetManager.Wire.backendName model.backend)

def catalogSent (response : Proto.CatalogResponse) : CatalogResponse where
  models := some (response.models.map (some ∘ modelSent))

def promptSent (dispatch : Proto.PromptDispatch) : PromptDispatch where
  requestId := some dispatch.requestId
  model := some dispatch.model
  payload := some dispatch.payload

open FleetManager (Wire.catalogModel Wire.catalogResponse Wire.promptDispatch
  Wire.toDocument)

private theorem readUint_encode (value : UInt32) :
    readUint (Proto.Codec.u32.encode value) = some value := by
  have bound : value.toNat < 2 ^ 32 := value.toNat_lt
  have same : (UInt64.ofNat value.toNat).toNat = value.toNat :=
    UInt64.toNat_ofNat_of_lt' (bound.trans (by decide))
  have back : (UInt64.ofNat value.toNat).toUInt32 = value :=
    UInt32.toNat_inj.mp (by simp)
  simp only [readUint, Proto.Codec.u32, Proto.Codec.unsigned, same,
    if_pos bound, back]

private theorem readUlong_encode (value : UInt64) :
    readUlong (Proto.Codec.u64.encode value) = some value := by
  simp [readUlong, Proto.Codec.u64, Proto.Codec.unsigned]

private theorem readCatalogModel_encode (model : Proto.CatalogModel) :
    readCatalogModel (FleetManager.Wire.catalogModel.encode model) =
      some (some (modelSent model)) := by
  have size := readUlong_encode model.sizeBytes
  have context := readUint_encode model.contextLength
  simp [readCatalogModel, readModel, property, FleetManager.Wire.catalogModel,
    Proto.Codec.record, Proto.Record.field, Proto.Record.empty, modelSent,
    size, context, Proto.Codec.text, readString, Proto.Codec.float, readDouble,
    FleetManager.Wire.backend, Proto.Codec.unitEnum, Proto.Number.toRat]

private theorem mapM_readCatalogModel (models : List Proto.CatalogModel) :
    (models.map FleetManager.Wire.catalogModel.encode).mapM readCatalogModel =
      some (models.map (some ∘ modelSent)) := by
  induction models with
  | nil => rfl
  | cons model models ih =>
      rw [List.map_cons, List.mapM_cons, readCatalogModel_encode, ih]
      rfl

private theorem readCatalogResponse_encode (response : Proto.CatalogResponse) :
    readCatalogResponse (FleetManager.Wire.catalogResponse.encode response) =
      some (catalogSent response) := by
  have models := mapM_readCatalogModel response.models
  simp [readCatalogResponse, property, FleetManager.Wire.catalogResponse,
    Proto.Codec.record, Proto.Record.field, Proto.Record.empty, catalogSent,
    Proto.Codec.list, readList, models]

private theorem readPromptDispatch_encode (dispatch : Proto.PromptDispatch) :
    readPromptDispatch (FleetManager.Wire.promptDispatch.encode dispatch) =
      some (promptSent dispatch) := by
  simp [readPromptDispatch, property, FleetManager.Wire.promptDispatch,
    Proto.Codec.record, Proto.Record.field, Proto.Record.empty, promptSent,
    Proto.Codec.text, Proto.Codec.value, readString]

variable {type : String} {payload : Json}

private theorem parse_tagged :
    parse (Proto.encodeTagged "type" "payload" (type, some payload)) =
      if payload.depth ≤ 63 then some ⟨type, some payload⟩ else none := by
  have depth : (Proto.encodeTagged "type" "payload"
      (type, some payload)).depth = payload.depth + 1 := by
    simp [Proto.encodeTagged, Json.depth, Json.depthFields]
  unfold parse
  rw [depth]
  by_cases shallow : payload.depth ≤ 63
  · rw [if_pos shallow, if_pos (Nat.succ_le_succ shallow)]
    rfl
  · rw [if_neg shallow, if_neg (shallow ∘ Nat.le_of_succ_le_succ)]

private theorem depth_promptDispatch (dispatch : Proto.PromptDispatch) :
    (FleetManager.Wire.promptDispatch.encode dispatch).depth =
      dispatch.payload.depth + 1 := by
  simp [FleetManager.Wire.promptDispatch, Proto.Codec.record,
    Proto.Record.field, Proto.Record.empty, Json.depth, Json.depthFields,
    Proto.Codec.text, Proto.Codec.value]

theorem onMessage_tagged :
    onMessage (Proto.encodeTagged "type" "payload" (type, some payload)) =
      if payload.depth ≤ 63 then act ⟨type, some payload⟩ else .nothing := by
  rw [onMessage, parse_tagged]
  by_cases shallow : payload.depth ≤ 63
  · rw [if_pos shallow, if_pos shallow]
  · rw [if_neg shallow, if_neg shallow]

private theorem onMessage_catalogResponse (response : Proto.CatalogResponse) :
    onMessage (FleetManager.Wire.toDocument (.catalogResponse response)) =
      .catalog (catalogSent response) := by
  have shallow := (Proto.catalogResponse_plain response).2
  refine onMessage_tagged.trans ((if_pos (shallow.trans (by decide))).trans ?_)
  simp only [act, Option.bind_some, readCatalogResponse_encode]

private theorem onMessage_promptDispatch (dispatch : Proto.PromptDispatch) :
    onMessage (FleetManager.Wire.toDocument (.promptDispatch dispatch)) =
      if dispatch.payload.depth ≤ 62 then .prompt (promptSent dispatch)
      else .nothing := by
  refine onMessage_tagged.trans ?_
  simp only [depth_promptDispatch, Nat.reduceLeDiff, act, Option.bind_some,
    readPromptDispatch_encode]

theorem onMessage_other (other : ∀ payload, act ⟨type, payload⟩ = .nothing) :
    onMessage (Proto.encodeTagged "type" "payload" (type, some payload)) =
      .nothing := by
  rw [onMessage_tagged]
  split
  · exact other _
  · rfl

def received : Message → Received
  | .catalogResponse response => .catalog (catalogSent response)
  | .promptDispatch dispatch =>
      if dispatch.payload.depth ≤ 62 then .prompt (promptSent dispatch)
      else .nothing
  | _ => .nothing

/-- The Windows node acts on what the Fleet Manager sends as it was sent, but
for a dispatch whose payload is nested deeper than 62 levels: it is dropped. -/
theorem onMessage_toDocument (message : Message) :
    onMessage (FleetManager.Wire.toDocument message) = received message := by
  cases message with
  | catalogResponse response => exact onMessage_catalogResponse response
  | promptDispatch dispatch => exact onMessage_promptDispatch dispatch
  | catalogRequest => rfl
  | register => exact onMessage_other fun _ => rfl
  | heartbeat => exact onMessage_other fun _ => rfl
  | modelStatus => exact onMessage_other fun _ => rfl
  | scheduleState => exact onMessage_other fun _ => rfl
  | tokenChunk => exact onMessage_other fun _ => rfl
  | done => exact onMessage_other fun _ => rfl
  | error => exact onMessage_other fun _ => rfl

end JwSwarm.WindowsNode.Inbound
