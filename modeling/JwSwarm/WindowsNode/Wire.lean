import JwSwarm.Proto.OtherWriters

namespace JwSwarm.WindowsNode.Wire

open Proto FleetManager.Wire

/-! The Windows node's declarations of the wire format. Its enumerations are
constants of type `string`, under the same names. -/

/-- A double is written with its shortest digits, with an exponent from
`10 ^ 15` on. -/
def double (value : ℚ) : Number :=
  .whole (10 ^ 15) value

def ulong (value : UInt64) : Json :=
  .number (.posInt value)

def uint (value : UInt32) : Json :=
  .number (.posInt value.toUInt64)

def byte (value : UInt8) : Json :=
  .number (.posInt value.toUInt64)

def strings (values : List String) : Json :=
  .array (values.map .string)

def gpuInfo (gpu : GpuInfo) : Json :=
  .object [("vendor", .string (gpuVendorName gpu.vendor)),
    ("name", .string gpu.name), ("vram_mb", ulong gpu.vramMb)]

def ownerLimits (limits : OwnerLimits) : Json :=
  .object [("gpu_power_pct", byte limits.gpuPowerPct),
    ("memory_limit_mb", ulong limits.memoryLimitMb)]

def metrics (metrics : Metrics) : Json :=
  .object [("vram_used_mb", ulong metrics.vramUsedMb),
    ("vram_total_mb", ulong metrics.vramTotalMb),
    ("gpu_util_pct", .number (double metrics.gpuUtilPct)),
    ("tps", .number (double metrics.tps)),
    ("latency_ms", .number (double metrics.latencyMs)),
    ("in_flight", uint metrics.inFlight)]

def catalogModel (model : CatalogModel) : Json :=
  .object [("id", .string model.id),
    ("display_name", .string model.displayName),
    ("download_url", .string model.downloadUrl),
    ("sha256", .string model.sha256),
    ("size_bytes", ulong model.sizeBytes),
    ("context_length", uint model.contextLength),
    ("params_billions", .number (double model.paramsBillions)),
    ("backend", .string (backendName model.backend))]

def usage (usage : Usage) : Json :=
  .object [("prompt_tokens", uint usage.promptTokens),
    ("completion_tokens", uint usage.completionTokens),
    ("total_tokens", uint usage.totalTokens)]

def register (register : Register) : Json :=
  .object [("node_id", .string register.nodeId),
    ("hostname", .string register.hostname),
    ("os", .string (osKindName register.os)),
    ("gpu", gpuInfo register.gpu),
    ("limits", ownerLimits register.limits),
    ("selected_models", strings register.selectedModels)]

def catalogResponse (response : CatalogResponse) : Json :=
  .object [("models", .array (response.models.map catalogModel))]

def heartbeat (heartbeat : Heartbeat) : Json :=
  .object [("node_id", .string heartbeat.nodeId),
    ("metrics", metrics heartbeat.metrics),
    ("schedule_state",
      .string (scheduleStateValueName heartbeat.scheduleState))]

def modelStatus (status : ModelStatus) : Json :=
  .object [("node_id", .string status.nodeId),
    ("ready_models", strings status.readyModels)]

def scheduleState (schedule : ScheduleState) : Json :=
  .object [("node_id", .string schedule.nodeId),
    ("state", .string (scheduleStateValueName schedule.state))]

def promptDispatch (dispatch : PromptDispatch) : Json :=
  .object [("request_id", .string dispatch.requestId),
    ("model", .string dispatch.model), ("payload", dispatch.payload)]

def tokenChunk (chunk : TokenChunk) : Json :=
  .object [("request_id", .string chunk.requestId),
    ("delta", .string chunk.delta), ("index", uint chunk.index)]

def done (done : Done) : Json :=
  .object [("request_id", .string done.requestId),
    ("usage", usage done.usage)]

def protoError (error : ProtoError) : Json :=
  .object [("request_id", .string error.requestId),
    ("message", .string error.message)]

def encode (type : String) (payload : Json) : Json :=
  .object [("type", .string type), ("payload", payload)]

def encodeBare (type : String) : Json :=
  .object [("type", .string type)]

def toDocument : Message → Json
  | .register payload => encode "Register" (register payload)
  | .catalogRequest => encodeBare "CatalogRequest"
  | .heartbeat payload => encode "Heartbeat" (heartbeat payload)
  | .modelStatus payload => encode "ModelStatus" (modelStatus payload)
  | .scheduleState payload => encode "ScheduleState" (scheduleState payload)
  | .tokenChunk payload => encode "TokenChunk" (tokenChunk payload)
  | .done payload => encode "Done" (done payload)
  | .error payload => encode "Error" (protoError payload)
  | .catalogResponse payload =>
      encode "CatalogResponse" (catalogResponse payload)
  | .promptDispatch payload => encode "PromptDispatch" (promptDispatch payload)

theorem rewritten_double (value : ℚ) :
    Rewritten (.number (.float value)) (.number (double value)) :=
  .float (Number.toRat_whole (by decide) value)

theorem rewritten_gpuInfo (gpu : GpuInfo) :
    Rewritten (FleetManager.Wire.gpuInfo.encode gpu) (gpuInfo gpu) :=
  .object (.cons (.string _) (.cons (.string _)
    (.cons (rewritten_u64 _) .nil))) (.refl _)

theorem rewritten_ownerLimits (limits : OwnerLimits) :
    Rewritten (FleetManager.Wire.ownerLimits.encode limits)
      (ownerLimits limits) :=
  .object (.cons (rewritten_u8 _) (.cons (rewritten_u64 _) .nil)) (.refl _)

private theorem rewritten_metrics (value : Metrics) :
    Rewritten (FleetManager.Wire.metrics.encode value) (metrics value) :=
  .object (.cons (rewritten_u64 _) (.cons (rewritten_u64 _)
    (.cons (rewritten_double _) (.cons (rewritten_double _)
      (.cons (rewritten_double _) (.cons (rewritten_u32 _) .nil))))))
    (.refl _)

theorem rewritten_catalogModel (model : CatalogModel) :
    Rewritten (FleetManager.Wire.catalogModel.encode model)
      (catalogModel model) :=
  .object (.cons (.string _) (.cons (.string _) (.cons (.string _)
    (.cons (.string _) (.cons (rewritten_u64 _) (.cons (rewritten_u32 _)
      (.cons (rewritten_double _) (.cons (.string _) .nil))))))))
    (.refl _)

theorem rewritten_usage (value : Usage) :
    Rewritten (FleetManager.Wire.usage.encode value) (usage value) :=
  .object (.cons (rewritten_u32 _) (.cons (rewritten_u32 _)
    (.cons (rewritten_u32 _) .nil))) (.refl _)

theorem rewritten_encode {type : String} {own payload : Json}
    (rewritten : Rewritten own payload) :
    Rewritten (encodeTagged "type" "payload" (type, some own))
      (encode type payload) :=
  .object (.cons (.string _) (.cons rewritten .nil)) (.refl _)

theorem rewritten_toDocument {message : Message} (typed : Typed message) :
    Rewritten (FleetManager.Wire.toDocument message) (toDocument message) := by
  cases message with
  | register payload =>
      refine rewritten_encode (.object ?_ (.refl _))
      exact .cons (.string _) (.cons (.string _) (.cons (.string _)
        (.cons (rewritten_gpuInfo _) (.cons (rewritten_ownerLimits _)
          (.cons (rewritten_texts _) .nil)))))
  | catalogRequest => exact .object (.cons (.string _) .nil) (.refl _)
  | heartbeat payload =>
      refine rewritten_encode (.object ?_ (.refl _))
      exact .cons (.string _) (.cons (rewritten_metrics _)
        (.cons (.string _) .nil))
  | modelStatus payload =>
      refine rewritten_encode (.object ?_ (.refl _))
      exact .cons (.string _) (.cons (rewritten_texts _) .nil)
  | scheduleState payload =>
      refine rewritten_encode (.object ?_ (.refl _))
      exact .cons (.string _) (.cons (.string _) .nil)
  | tokenChunk payload =>
      refine rewritten_encode (.object ?_ (.refl _))
      exact .cons (.string _) (.cons (.string _)
        (.cons (rewritten_u32 _) .nil))
  | done payload =>
      refine rewritten_encode (.object ?_ (.refl _))
      exact .cons (.string _) (.cons (rewritten_usage _) .nil)
  | error payload =>
      refine rewritten_encode (.object ?_ (.refl _))
      exact .cons (.string _) (.cons (.string _) .nil)
  | catalogResponse payload =>
      refine rewritten_encode (.object ?_ (.refl _))
      exact .cons (.array (rewrittenItems_map rewritten_catalogModel _)) .nil
  | promptDispatch _ => exact typed.elim

/-- The Fleet Manager reads what the Windows node writes; numbers are read
exactly, where `serde_json` may be off in the last place. -/
theorem fromDocument_windows {message : Message} (typed : Typed message) :
    fromDocument (toDocument message) = some message :=
  fromDocument_rewritten typed (rewritten_toDocument typed)

theorem fromDocument_windows_heartbeat :
    fromDocument (toDocument idleHeartbeat) = some idleHeartbeat :=
  fromDocument_windows trivial

end JwSwarm.WindowsNode.Wire
