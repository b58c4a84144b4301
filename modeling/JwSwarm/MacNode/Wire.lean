import JwSwarm.Proto.OtherWriters

namespace JwSwarm.MacNode.Wire

open Proto FleetManager.Wire

/-! The macOS node's declarations of the wire format. Its keys are in snake case
already, so the encoder's key strategy leaves them. -/

/-- The platform's serializer: the order in which it writes the keys of a
dictionary, and the number it writes for a double. -/
structure Foundation where
  order : List (String × Json) → List (String × Json)
  double : ℚ → Number

/-- It writes every key once and no double as another. -/
structure Foundation.Faithful (foundation : Foundation) : Prop where
  order_perm : ∀ fields, (foundation.order fields).Perm fields
  double_toRat : ∀ value, (foundation.double value).toRat = value

variable (foundation : Foundation)

def dictionary (fields : List (String × Json)) : Json :=
  .object (foundation.order fields)

def integer (value : UInt64) : Json :=
  .number (.posInt value)

def strings (values : List String) : Json :=
  .array (values.map .string)

def gpuInfo (gpu : GpuInfo) : Json :=
  dictionary foundation [("vendor", .string (gpuVendorName gpu.vendor)),
    ("name", .string gpu.name), ("vram_mb", integer gpu.vramMb)]

def ownerLimits (limits : OwnerLimits) : Json :=
  dictionary foundation
    [("gpu_power_pct", integer limits.gpuPowerPct.toUInt64),
      ("memory_limit_mb", integer limits.memoryLimitMb)]

def nodeMetrics (metrics : Metrics) : Json :=
  dictionary foundation [("vram_used_mb", integer metrics.vramUsedMb),
    ("vram_total_mb", integer metrics.vramTotalMb),
    ("gpu_util_pct", .number (foundation.double metrics.gpuUtilPct)),
    ("tps", .number (foundation.double metrics.tps)),
    ("latency_ms", .number (foundation.double metrics.latencyMs)),
    ("in_flight", integer metrics.inFlight.toUInt64)]

def catalogModel (model : CatalogModel) : Json :=
  dictionary foundation [("id", .string model.id),
    ("display_name", .string model.displayName),
    ("download_url", .string model.downloadUrl),
    ("sha256", .string model.sha256),
    ("size_bytes", integer model.sizeBytes),
    ("context_length", integer model.contextLength.toUInt64),
    ("params_billions", .number (foundation.double model.paramsBillions)),
    ("backend", .string (backendName model.backend))]

def usage (usage : Usage) : Json :=
  dictionary foundation
    [("prompt_tokens", integer usage.promptTokens.toUInt64),
      ("completion_tokens", integer usage.completionTokens.toUInt64),
      ("total_tokens", integer usage.totalTokens.toUInt64)]

def payloadFields : Message → Option (List (String × Json))
  | .register payload =>
      some [("node_id", .string payload.nodeId),
        ("hostname", .string payload.hostname),
        ("os", .string (osKindName payload.os)),
        ("gpu", gpuInfo foundation payload.gpu),
        ("limits", ownerLimits foundation payload.limits),
        ("selected_models", strings payload.selectedModels)]
  | .catalogRequest => none
  | .heartbeat payload =>
      some [("node_id", .string payload.nodeId),
        ("metrics", nodeMetrics foundation payload.metrics),
        ("schedule_state",
          .string (scheduleStateValueName payload.scheduleState))]
  | .modelStatus payload =>
      some [("node_id", .string payload.nodeId),
        ("ready_models", strings payload.readyModels)]
  | .scheduleState payload =>
      some [("node_id", .string payload.nodeId),
        ("state", .string (scheduleStateValueName payload.state))]
  | .tokenChunk payload =>
      some [("request_id", .string payload.requestId),
        ("delta", .string payload.delta),
        ("index", integer payload.index.toUInt64)]
  | .done payload =>
      some [("request_id", .string payload.requestId),
        ("usage", usage foundation payload.usage)]
  | .error payload =>
      some [("request_id", .string payload.requestId),
        ("message", .string payload.message)]
  | .catalogResponse payload =>
      some [("models", .array (payload.models.map (catalogModel foundation)))]
  | .promptDispatch payload =>
      some [("request_id", .string payload.requestId),
        ("model", .string payload.model), ("payload", payload.payload)]

def messageType : Message → String
  | .register _ => "Register"
  | .catalogRequest => "CatalogRequest"
  | .heartbeat _ => "Heartbeat"
  | .modelStatus _ => "ModelStatus"
  | .scheduleState _ => "ScheduleState"
  | .tokenChunk _ => "TokenChunk"
  | .done _ => "Done"
  | .error _ => "Error"
  | .catalogResponse _ => "CatalogResponse"
  | .promptDispatch _ => "PromptDispatch"

/-- A unit variant is written without a payload. -/
def toDocument (message : Message) : Json :=
  match payloadFields foundation message with
  | none => dictionary foundation [("type", .string (messageType message))]
  | some fields =>
      dictionary foundation [("type", .string (messageType message)),
        ("payload", dictionary foundation fields)]

variable {foundation}

theorem Foundation.Faithful.rewritten (faithful : foundation.Faithful)
    {own fields : List (String × Json)} (each : RewrittenFields own fields) :
    Rewritten (.object own) (dictionary foundation fields) :=
  .object each (faithful.order_perm fields)

theorem Foundation.Faithful.rewritten_double (faithful : foundation.Faithful)
    (value : ℚ) :
    Rewritten (.number (.float value)) (.number (foundation.double value)) :=
  .float (faithful.double_toRat value)

theorem Foundation.Faithful.rewritten_gpuInfo (faithful : foundation.Faithful)
    (gpu : GpuInfo) :
    Rewritten (FleetManager.Wire.gpuInfo.encode gpu)
      (gpuInfo foundation gpu) :=
  faithful.rewritten (.cons (.string _) (.cons (.string _)
    (.cons (rewritten_u64 _) .nil)))

theorem Foundation.Faithful.rewritten_ownerLimits
    (faithful : foundation.Faithful) (limits : OwnerLimits) :
    Rewritten (FleetManager.Wire.ownerLimits.encode limits)
      (ownerLimits foundation limits) :=
  faithful.rewritten (.cons (rewritten_u8 _) (.cons (rewritten_u64 _) .nil))

private theorem Foundation.Faithful.rewritten_nodeMetrics
    (faithful : foundation.Faithful) (metrics : Metrics) :
    Rewritten (FleetManager.Wire.metrics.encode metrics)
      (nodeMetrics foundation metrics) :=
  faithful.rewritten (.cons (rewritten_u64 _) (.cons (rewritten_u64 _)
    (.cons (faithful.rewritten_double _) (.cons (faithful.rewritten_double _)
      (.cons (faithful.rewritten_double _)
        (.cons (rewritten_u32 _) .nil))))))

theorem Foundation.Faithful.rewritten_catalogModel
    (faithful : foundation.Faithful) (model : CatalogModel) :
    Rewritten (FleetManager.Wire.catalogModel.encode model)
      (catalogModel foundation model) :=
  faithful.rewritten (.cons (.string _) (.cons (.string _) (.cons (.string _)
    (.cons (.string _) (.cons (rewritten_u64 _) (.cons (rewritten_u32 _)
      (.cons (faithful.rewritten_double _) (.cons (.string _) .nil))))))))

theorem Foundation.Faithful.rewritten_usage (faithful : foundation.Faithful)
    (value : Usage) :
    Rewritten (FleetManager.Wire.usage.encode value)
      (usage foundation value) :=
  faithful.rewritten (.cons (rewritten_u32 _) (.cons (rewritten_u32 _)
    (.cons (rewritten_u32 _) .nil)))

theorem Foundation.Faithful.rewritten_tagged (faithful : foundation.Faithful)
    {type : String} {own fields : List (String × Json)}
    (each : RewrittenFields own fields) :
    Rewritten (encodeTagged "type" "payload" (type, some (.object own)))
      (dictionary foundation [("type", .string type),
        ("payload", dictionary foundation fields)]) :=
  faithful.rewritten (.cons (.string _)
    (.cons (faithful.rewritten each) .nil))

theorem Foundation.Faithful.rewritten_toDocument
    (faithful : foundation.Faithful) {message : Message}
    (typed : Typed message) :
    Rewritten (FleetManager.Wire.toDocument message)
      (toDocument foundation message) := by
  cases message with
  | register =>
      exact faithful.rewritten_tagged (.cons (.string _) (.cons (.string _)
        (.cons (.string _) (.cons (faithful.rewritten_gpuInfo _)
          (.cons (faithful.rewritten_ownerLimits _)
            (.cons (rewritten_texts _) .nil))))))
  | catalogRequest => exact faithful.rewritten (.cons (.string _) .nil)
  | heartbeat =>
      exact faithful.rewritten_tagged (.cons (.string _)
        (.cons (faithful.rewritten_nodeMetrics _) (.cons (.string _) .nil)))
  | modelStatus =>
      exact faithful.rewritten_tagged
        (.cons (.string _) (.cons (rewritten_texts _) .nil))
  | scheduleState =>
      exact faithful.rewritten_tagged
        (.cons (.string _) (.cons (.string _) .nil))
  | tokenChunk =>
      exact faithful.rewritten_tagged (.cons (.string _)
        (.cons (.string _) (.cons (rewritten_u32 _) .nil)))
  | done =>
      exact faithful.rewritten_tagged
        (.cons (.string _) (.cons (faithful.rewritten_usage _) .nil))
  | error =>
      exact faithful.rewritten_tagged
        (.cons (.string _) (.cons (.string _) .nil))
  | catalogResponse =>
      exact faithful.rewritten_tagged (.cons (.array
        (rewrittenItems_map faithful.rewritten_catalogModel _)) .nil)
  | promptDispatch => exact typed.elim

/-- The Fleet Manager reads what the macOS node writes, in whatever order the
platform writes the keys of its dictionaries; numbers are read exactly, where
`serde_json` may be off in the last place. -/
theorem fromDocument_mac (faithful : foundation.Faithful) {message : Message}
    (typed : Typed message) :
    fromDocument (toDocument foundation message) = some message :=
  fromDocument_rewritten typed (faithful.rewritten_toDocument typed)

def reversing : Foundation where
  order := List.reverse
  double := .whole (2 ^ 53)

theorem fromDocument_mac_reversed :
    fromDocument (toDocument reversing idleHeartbeat) = some idleHeartbeat :=
  fromDocument_mac
    { order_perm := List.reverse_perm
      double_toRat := Number.toRat_whole (by decide) } trivial

end JwSwarm.MacNode.Wire
