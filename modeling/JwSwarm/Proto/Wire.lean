import JwSwarm.Proto.Derive
import JwSwarm.Proto.Message

namespace JwSwarm.FleetManager.Wire

open Proto

/-! The Fleet Manager's declarations of the wire format. -/

def scheduleStateValueName : ScheduleStateValue → String
  | .awake => "awake"
  | .asleep => "asleep"
  | .draining => "draining"

def gpuVendorName : GpuVendor → String
  | .nvidia => "nvidia"
  | .amd => "amd"
  | .apple => "apple"
  | .intel => "intel"

def osKindName : OsKind → String
  | .macos => "macos"
  | .linux => "linux"
  | .windows => "windows"

def backendName : Backend → String
  | .vllm => "vllm"
  | .llamaCpp => "llama.cpp"
  | .mlx => "mlx"

def scheduleStateValue : Codec ScheduleStateValue :=
  .unitEnum [.awake, .asleep, .draining] scheduleStateValueName
    (by intro value; cases value <;> decide)
    (by intro value other; cases value <;> cases other <;> decide)

def gpuVendor : Codec GpuVendor :=
  .unitEnum [.nvidia, .amd, .apple, .intel] gpuVendorName
    (by intro value; cases value <;> decide)
    (by intro value other; cases value <;> cases other <;> decide)

def osKind : Codec OsKind :=
  .unitEnum [.macos, .linux, .windows] osKindName
    (by intro value; cases value <;> decide)
    (by intro value other; cases value <;> cases other <;> decide)

def backend : Codec Backend :=
  .unitEnum [.vllm, .llamaCpp, .mlx] backendName
    (by intro value; cases value <;> decide)
    (by intro value other; cases value <;> cases other <;> decide)

def gpuInfo : Codec GpuInfo :=
  .record
    (.field "vendor" gpuVendor (.field "name" .text
      (.field "vram_mb" .u64 .empty)))
    (fun (vendor, name, vramMb, _) => { vendor, name, vramMb })
    (fun value => (value.vendor, value.name, value.vramMb, ()))
    (fun _ => rfl) (by decide)

def ownerLimits : Codec OwnerLimits :=
  .record
    (.field "gpu_power_pct" .u8 (.field "memory_limit_mb" .u64 .empty))
    (fun (gpuPowerPct, memoryLimitMb, _) => { gpuPowerPct, memoryLimitMb })
    (fun value => (value.gpuPowerPct, value.memoryLimitMb, ()))
    (fun _ => rfl) (by decide)

def metrics : Codec Metrics :=
  .record
    (.field "vram_used_mb" .u64 (.field "vram_total_mb" .u64
      (.field "gpu_util_pct" .float (.field "tps" .float
        (.field "latency_ms" .float (.field "in_flight" .u32 .empty))))))
    (fun (vramUsedMb, vramTotalMb, gpuUtilPct, tps, latencyMs, inFlight, _) =>
      { vramUsedMb, vramTotalMb, gpuUtilPct, tps, latencyMs, inFlight })
    (fun value => (value.vramUsedMb, value.vramTotalMb, value.gpuUtilPct,
      value.tps, value.latencyMs, value.inFlight, ()))
    (fun _ => rfl) (by decide)

def catalogModel : Codec CatalogModel :=
  .record
    (.field "id" .text (.field "display_name" .text
      (.field "download_url" .text (.field "sha256" .text
        (.field "size_bytes" .u64 (.field "context_length" .u32
          (.field "params_billions" .float
            (.field "backend" backend .empty))))))))
    (fun (id, displayName, downloadUrl, sha256, sizeBytes, contextLength,
        paramsBillions, backend, _) =>
      { id, displayName, downloadUrl, sha256, sizeBytes, contextLength,
        paramsBillions, backend })
    (fun value => (value.id, value.displayName, value.downloadUrl,
      value.sha256, value.sizeBytes, value.contextLength,
      value.paramsBillions, value.backend, ()))
    (fun _ => rfl) (by decide)

def usage : Codec Usage :=
  .record
    (.field "prompt_tokens" .u32 (.field "completion_tokens" .u32
      (.field "total_tokens" .u32 .empty)))
    (fun (promptTokens, completionTokens, totalTokens, _) =>
      { promptTokens, completionTokens, totalTokens })
    (fun value =>
      (value.promptTokens, value.completionTokens, value.totalTokens, ()))
    (fun _ => rfl) (by decide)

def register : Codec Register :=
  .record
    (.field "node_id" .text (.field "hostname" .text (.field "os" osKind
      (.field "gpu" gpuInfo (.field "limits" ownerLimits
        (.field "selected_models" (.list .text) .empty))))))
    (fun (nodeId, hostname, os, gpu, limits, selectedModels, _) =>
      { nodeId, hostname, os, gpu, limits, selectedModels })
    (fun value => (value.nodeId, value.hostname, value.os, value.gpu,
      value.limits, value.selectedModels, ()))
    (fun _ => rfl) (by decide)

def catalogResponse : Codec CatalogResponse :=
  .record (.field "models" (.list catalogModel) .empty)
    (fun (models, _) => { models }) (fun value => (value.models, ()))
    (fun _ => rfl) (by decide)

def heartbeat : Codec Heartbeat :=
  .record
    (.field "node_id" .text (.field "metrics" metrics
      (.field "schedule_state" scheduleStateValue .empty)))
    (fun (nodeId, metrics, scheduleState, _) =>
      { nodeId, metrics, scheduleState })
    (fun value => (value.nodeId, value.metrics, value.scheduleState, ()))
    (fun _ => rfl) (by decide)

def modelStatus : Codec ModelStatus :=
  .record
    (.field "node_id" .text (.field "ready_models" (.list .text) .empty))
    (fun (nodeId, readyModels, _) => { nodeId, readyModels })
    (fun value => (value.nodeId, value.readyModels, ()))
    (fun _ => rfl) (by decide)

def scheduleState : Codec ScheduleState :=
  .record
    (.field "node_id" .text (.field "state" scheduleStateValue .empty))
    (fun (nodeId, state, _) => { nodeId, state })
    (fun value => (value.nodeId, value.state, ()))
    (fun _ => rfl) (by decide)

def promptDispatch : Codec PromptDispatch :=
  .record
    (.field "request_id" .text (.field "model" .text
      (.field "payload" .value .empty)))
    (fun (requestId, model, payload, _) => { requestId, model, payload })
    (fun value => (value.requestId, value.model, value.payload, ()))
    (fun _ => rfl) (by decide)

def tokenChunk : Codec TokenChunk :=
  .record
    (.field "request_id" .text (.field "delta" .text
      (.field "index" .u32 .empty)))
    (fun (requestId, delta, index, _) => { requestId, delta, index })
    (fun value => (value.requestId, value.delta, value.index, ()))
    (fun _ => rfl) (by decide)

def done : Codec Done :=
  .record
    (.field "request_id" .text (.field "usage" usage .empty))
    (fun (requestId, usage, _) => { requestId, usage })
    (fun value => (value.requestId, value.usage, ()))
    (fun _ => rfl) (by decide)

def protoError : Codec ProtoError :=
  .record
    (.field "request_id" .text (.field "message" .text .empty))
    (fun (requestId, message, _) => { requestId, message })
    (fun value => (value.requestId, value.message, ()))
    (fun _ => rfl) (by decide)

def variants : List (Proto.Variant Message) :=
  [.newtype "Register" register .register,
    .unit "CatalogRequest" .catalogRequest,
    .newtype "Heartbeat" heartbeat .heartbeat,
    .newtype "ModelStatus" modelStatus .modelStatus,
    .newtype "ScheduleState" scheduleState .scheduleState,
    .newtype "TokenChunk" tokenChunk .tokenChunk,
    .newtype "Done" done .done,
    .newtype "Error" protoError .error,
    .newtype "CatalogResponse" catalogResponse .catalogResponse,
    .newtype "PromptDispatch" promptDispatch .promptDispatch]

def split : Message → String × Option Json
  | .register payload => ("Register", some (register.encode payload))
  | .catalogRequest => ("CatalogRequest", none)
  | .heartbeat payload => ("Heartbeat", some (heartbeat.encode payload))
  | .modelStatus payload => ("ModelStatus", some (modelStatus.encode payload))
  | .scheduleState payload =>
      ("ScheduleState", some (scheduleState.encode payload))
  | .tokenChunk payload => ("TokenChunk", some (tokenChunk.encode payload))
  | .done payload => ("Done", some (done.encode payload))
  | .error payload => ("Error", some (protoError.encode payload))
  | .catalogResponse payload =>
      ("CatalogResponse", some (catalogResponse.encode payload))
  | .promptDispatch payload =>
      ("PromptDispatch", some (promptDispatch.encode payload))

def toDocument (message : Message) : Json :=
  encodeTagged "type" "payload" (split message)

/-- A text may be nested 127 deep. -/
def fromDocument (document : Json) : Option Message :=
  decodeTagged "type" "payload" variants (.text 128) document

def toJson (text : JsonText) (message : Message) : String :=
  text.print (toDocument message)

def fromJson (text : JsonText) (json : String) : Option Message :=
  (text.parse json).bind fromDocument

end JwSwarm.FleetManager.Wire

namespace JwSwarm.LinuxNode.Wire

open Proto

/-! The Linux node's declarations of the wire format, a mirror of the Fleet
Manager's. -/

def scheduleStateValueName : ScheduleStateValue → String
  | .awake => "awake"
  | .asleep => "asleep"
  | .draining => "draining"

def gpuVendorName : GpuVendor → String
  | .nvidia => "nvidia"
  | .amd => "amd"
  | .apple => "apple"
  | .intel => "intel"

def osKindName : OsKind → String
  | .macos => "macos"
  | .linux => "linux"
  | .windows => "windows"

def backendName : Backend → String
  | .vllm => "vllm"
  | .llamaCpp => "llama.cpp"
  | .mlx => "mlx"

def scheduleStateValue : Codec ScheduleStateValue :=
  .unitEnum [.awake, .asleep, .draining] scheduleStateValueName
    (by intro value; cases value <;> decide)
    (by intro value other; cases value <;> cases other <;> decide)

def gpuVendor : Codec GpuVendor :=
  .unitEnum [.nvidia, .amd, .apple, .intel] gpuVendorName
    (by intro value; cases value <;> decide)
    (by intro value other; cases value <;> cases other <;> decide)

def osKind : Codec OsKind :=
  .unitEnum [.macos, .linux, .windows] osKindName
    (by intro value; cases value <;> decide)
    (by intro value other; cases value <;> cases other <;> decide)

def backend : Codec Backend :=
  .unitEnum [.vllm, .llamaCpp, .mlx] backendName
    (by intro value; cases value <;> decide)
    (by intro value other; cases value <;> cases other <;> decide)

def gpuInfo : Codec GpuInfo :=
  .record
    (.field "vendor" gpuVendor (.field "name" .text
      (.field "vram_mb" .u64 .empty)))
    (fun (vendor, name, vramMb, _) => { vendor, name, vramMb })
    (fun value => (value.vendor, value.name, value.vramMb, ()))
    (fun _ => rfl) (by decide)

def ownerLimits : Codec OwnerLimits :=
  .record
    (.field "gpu_power_pct" .u8 (.field "memory_limit_mb" .u64 .empty))
    (fun (gpuPowerPct, memoryLimitMb, _) => { gpuPowerPct, memoryLimitMb })
    (fun value => (value.gpuPowerPct, value.memoryLimitMb, ()))
    (fun _ => rfl) (by decide)

def metrics : Codec Metrics :=
  .record
    (.field "vram_used_mb" .u64 (.field "vram_total_mb" .u64
      (.field "gpu_util_pct" .float (.field "tps" .float
        (.field "latency_ms" .float (.field "in_flight" .u32 .empty))))))
    (fun (vramUsedMb, vramTotalMb, gpuUtilPct, tps, latencyMs, inFlight, _) =>
      { vramUsedMb, vramTotalMb, gpuUtilPct, tps, latencyMs, inFlight })
    (fun value => (value.vramUsedMb, value.vramTotalMb, value.gpuUtilPct,
      value.tps, value.latencyMs, value.inFlight, ()))
    (fun _ => rfl) (by decide)

def catalogModel : Codec CatalogModel :=
  .record
    (.field "id" .text (.field "display_name" .text
      (.field "download_url" .text (.field "sha256" .text
        (.field "size_bytes" .u64 (.field "context_length" .u32
          (.field "params_billions" .float
            (.field "backend" backend .empty))))))))
    (fun (id, displayName, downloadUrl, sha256, sizeBytes, contextLength,
        paramsBillions, backend, _) =>
      { id, displayName, downloadUrl, sha256, sizeBytes, contextLength,
        paramsBillions, backend })
    (fun value => (value.id, value.displayName, value.downloadUrl,
      value.sha256, value.sizeBytes, value.contextLength,
      value.paramsBillions, value.backend, ()))
    (fun _ => rfl) (by decide)

def usage : Codec Usage :=
  .record
    (.field "prompt_tokens" .u32 (.field "completion_tokens" .u32
      (.field "total_tokens" .u32 .empty)))
    (fun (promptTokens, completionTokens, totalTokens, _) =>
      { promptTokens, completionTokens, totalTokens })
    (fun value =>
      (value.promptTokens, value.completionTokens, value.totalTokens, ()))
    (fun _ => rfl) (by decide)

def register : Codec Register :=
  .record
    (.field "node_id" .text (.field "hostname" .text (.field "os" osKind
      (.field "gpu" gpuInfo (.field "limits" ownerLimits
        (.field "selected_models" (.list .text) .empty))))))
    (fun (nodeId, hostname, os, gpu, limits, selectedModels, _) =>
      { nodeId, hostname, os, gpu, limits, selectedModels })
    (fun value => (value.nodeId, value.hostname, value.os, value.gpu,
      value.limits, value.selectedModels, ()))
    (fun _ => rfl) (by decide)

def catalogResponse : Codec CatalogResponse :=
  .record (.field "models" (.list catalogModel) .empty)
    (fun (models, _) => { models }) (fun value => (value.models, ()))
    (fun _ => rfl) (by decide)

def heartbeat : Codec Heartbeat :=
  .record
    (.field "node_id" .text (.field "metrics" metrics
      (.field "schedule_state" scheduleStateValue .empty)))
    (fun (nodeId, metrics, scheduleState, _) =>
      { nodeId, metrics, scheduleState })
    (fun value => (value.nodeId, value.metrics, value.scheduleState, ()))
    (fun _ => rfl) (by decide)

def modelStatus : Codec ModelStatus :=
  .record
    (.field "node_id" .text (.field "ready_models" (.list .text) .empty))
    (fun (nodeId, readyModels, _) => { nodeId, readyModels })
    (fun value => (value.nodeId, value.readyModels, ()))
    (fun _ => rfl) (by decide)

def scheduleState : Codec ScheduleState :=
  .record
    (.field "node_id" .text (.field "state" scheduleStateValue .empty))
    (fun (nodeId, state, _) => { nodeId, state })
    (fun value => (value.nodeId, value.state, ()))
    (fun _ => rfl) (by decide)

def promptDispatch : Codec PromptDispatch :=
  .record
    (.field "request_id" .text (.field "model" .text
      (.field "payload" .value .empty)))
    (fun (requestId, model, payload, _) => { requestId, model, payload })
    (fun value => (value.requestId, value.model, value.payload, ()))
    (fun _ => rfl) (by decide)

def tokenChunk : Codec TokenChunk :=
  .record
    (.field "request_id" .text (.field "delta" .text
      (.field "index" .u32 .empty)))
    (fun (requestId, delta, index, _) => { requestId, delta, index })
    (fun value => (value.requestId, value.delta, value.index, ()))
    (fun _ => rfl) (by decide)

def done : Codec Done :=
  .record
    (.field "request_id" .text (.field "usage" usage .empty))
    (fun (requestId, usage, _) => { requestId, usage })
    (fun value => (value.requestId, value.usage, ()))
    (fun _ => rfl) (by decide)

def protoError : Codec ProtoError :=
  .record
    (.field "request_id" .text (.field "message" .text .empty))
    (fun (requestId, message, _) => { requestId, message })
    (fun value => (value.requestId, value.message, ()))
    (fun _ => rfl) (by decide)

def variants : List (Proto.Variant Message) :=
  [.newtype "Register" register .register,
    .unit "CatalogRequest" .catalogRequest,
    .newtype "Heartbeat" heartbeat .heartbeat,
    .newtype "ModelStatus" modelStatus .modelStatus,
    .newtype "ScheduleState" scheduleState .scheduleState,
    .newtype "TokenChunk" tokenChunk .tokenChunk,
    .newtype "Done" done .done,
    .newtype "Error" protoError .error,
    .newtype "CatalogResponse" catalogResponse .catalogResponse,
    .newtype "PromptDispatch" promptDispatch .promptDispatch]

def split : Message → String × Option Json
  | .register payload => ("Register", some (register.encode payload))
  | .catalogRequest => ("CatalogRequest", none)
  | .heartbeat payload => ("Heartbeat", some (heartbeat.encode payload))
  | .modelStatus payload => ("ModelStatus", some (modelStatus.encode payload))
  | .scheduleState payload =>
      ("ScheduleState", some (scheduleState.encode payload))
  | .tokenChunk payload => ("TokenChunk", some (tokenChunk.encode payload))
  | .done payload => ("Done", some (done.encode payload))
  | .error payload => ("Error", some (protoError.encode payload))
  | .catalogResponse payload =>
      ("CatalogResponse", some (catalogResponse.encode payload))
  | .promptDispatch payload =>
      ("PromptDispatch", some (promptDispatch.encode payload))

def toDocument (message : Message) : Json :=
  encodeTagged "type" "payload" (split message)

/-- A text may be nested 127 deep. -/
def fromDocument (document : Json) : Option Message :=
  decodeTagged "type" "payload" variants (.text 128) document

def toJson (text : JsonText) (message : Message) : String :=
  text.print (toDocument message)

def fromJson (text : JsonText) (json : String) : Option Message :=
  (text.parse json).bind fromDocument

end JwSwarm.LinuxNode.Wire
