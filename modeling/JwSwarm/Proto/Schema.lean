import JwSwarm.Proto.SchemaLanguage

namespace JwSwarm.Proto.Schema

/-! The protocol's schema, definition by definition. The annotations `title`,
`description` and `format` do not decide validity. -/

def scheduleStateValue : Schema :=
  allOf [type .string, enum ["awake", "asleep", "draining"]]

def gpuVendor : Schema :=
  allOf [type .string, enum ["nvidia", "amd", "apple", "intel"]]

def osKind : Schema :=
  allOf [type .string, enum ["macos", "linux", "windows"]]

def backend : Schema :=
  allOf [type .string, enum ["vllm", "llama.cpp", "mlx"]]

def integerFrom (bound : ℚ) : Schema :=
  allOf [type .integer, minimum bound]

def numberFrom (bound : ℚ) : Schema :=
  allOf [type .number, minimum bound]

def strings : Schema :=
  allOf [type .array, items (type .string)]

def gpuInfo : Schema :=
  object [("vendor", gpuVendor), ("name", type .string),
    ("vram_mb", integerFrom 0)]

def ownerLimits : Schema :=
  object [("gpu_power_pct", allOf [type .integer, minimum 0, maximum 100]),
    ("memory_limit_mb", integerFrom 0)]

def metrics : Schema :=
  object [("vram_used_mb", integerFrom 0), ("vram_total_mb", integerFrom 0),
    ("gpu_util_pct", allOf [type .number, minimum 0, maximum 100]),
    ("tps", numberFrom 0), ("latency_ms", numberFrom 0),
    ("in_flight", integerFrom 0)]

def catalogModel : Schema :=
  object [("id", type .string), ("display_name", type .string),
    ("download_url", type .string), ("sha256", type .string),
    ("size_bytes", integerFrom 0), ("context_length", integerFrom 1),
    ("params_billions", numberFrom 0), ("backend", backend)]

def usage : Schema :=
  object [("prompt_tokens", integerFrom 0),
    ("completion_tokens", integerFrom 0), ("total_tokens", integerFrom 0)]

def register : Schema :=
  object [("node_id", type .string), ("hostname", type .string),
    ("os", osKind), ("gpu", gpuInfo), ("limits", ownerLimits),
    ("selected_models", strings)]

def catalogRequest : Schema :=
  allOf [type .object, closed []]

def catalogResponse : Schema :=
  object [("models", allOf [type .array, items catalogModel])]

def heartbeat : Schema :=
  object [("node_id", type .string), ("metrics", metrics),
    ("schedule_state", scheduleStateValue)]

def modelStatus : Schema :=
  object [("node_id", type .string), ("ready_models", strings)]

def scheduleState : Schema :=
  object [("node_id", type .string), ("state", scheduleStateValue)]

def promptDispatch : Schema :=
  object [("request_id", type .string), ("model", type .string),
    ("payload", type .object)]

def tokenChunk : Schema :=
  object [("request_id", type .string), ("delta", type .string),
    ("index", integerFrom 0)]

def done : Schema :=
  object [("request_id", type .string), ("usage", usage)]

def error : Schema :=
  object [("request_id", type .string), ("message", type .string)]

def contents : List (String × Schema) :=
  [("Register", register), ("CatalogRequest", catalogRequest),
    ("CatalogResponse", catalogResponse), ("Heartbeat", heartbeat),
    ("ModelStatus", modelStatus), ("ScheduleState", scheduleState),
    ("PromptDispatch", promptDispatch), ("TokenChunk", tokenChunk),
    ("Done", done), ("Error", error)]

def envelope : Schema :=
  allOf [object [("type", allOf [type .string, enum (contents.map Prod.fst)]),
      ("payload", type .object)],
    allOf (contents.map fun (name, schema) =>
      ifThen (properties [("type", const name)])
        (properties [("payload", schema)]))]

end JwSwarm.Proto.Schema
