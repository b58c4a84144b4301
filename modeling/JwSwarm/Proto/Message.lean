import JwSwarm.Proto.Json

namespace JwSwarm.Proto

/-! The messages of the node tunnel. Floating-point fields are exact rationals;
integer fields have the width of the Rust declarations. -/

abbrev NodeId := String
abbrev ModelId := String
abbrev RequestId := String

inductive ScheduleStateValue where
  | awake
  | asleep
  | draining
  deriving DecidableEq, Repr

inductive GpuVendor where
  | nvidia
  | amd
  | apple
  | intel
  deriving DecidableEq, Repr

inductive OsKind where
  | macos
  | linux
  | windows
  deriving DecidableEq, Repr

inductive Backend where
  | vllm
  | llamaCpp
  | mlx
  deriving DecidableEq, Repr

structure GpuInfo where
  vendor : GpuVendor
  name : String
  vramMb : UInt64
  deriving DecidableEq

structure OwnerLimits where
  gpuPowerPct : UInt8
  memoryLimitMb : UInt64
  deriving DecidableEq

structure Metrics where
  vramUsedMb : UInt64
  vramTotalMb : UInt64
  gpuUtilPct : ℚ
  tps : ℚ
  latencyMs : ℚ
  inFlight : UInt32
  deriving DecidableEq

structure CatalogModel where
  id : ModelId
  displayName : String
  downloadUrl : String
  sha256 : String
  sizeBytes : UInt64
  contextLength : UInt32
  paramsBillions : ℚ
  backend : Backend
  deriving DecidableEq

structure Usage where
  promptTokens : UInt32
  completionTokens : UInt32
  totalTokens : UInt32
  deriving DecidableEq

structure Register where
  nodeId : NodeId
  hostname : String
  os : OsKind
  gpu : GpuInfo
  limits : OwnerLimits
  selectedModels : List ModelId
  deriving DecidableEq

structure CatalogResponse where
  models : List CatalogModel
  deriving DecidableEq

structure Heartbeat where
  nodeId : NodeId
  metrics : Metrics
  scheduleState : ScheduleStateValue
  deriving DecidableEq

structure ModelStatus where
  nodeId : NodeId
  readyModels : List ModelId
  deriving DecidableEq

structure ScheduleState where
  nodeId : NodeId
  state : ScheduleStateValue
  deriving DecidableEq

structure PromptDispatch where
  requestId : RequestId
  model : ModelId
  payload : Json

structure TokenChunk where
  requestId : RequestId
  delta : String
  index : UInt32
  deriving DecidableEq

structure Done where
  requestId : RequestId
  usage : Usage
  deriving DecidableEq

structure ProtoError where
  requestId : RequestId
  message : String
  deriving DecidableEq

inductive Message where
  | register (payload : Register)
  | catalogRequest
  | heartbeat (payload : Heartbeat)
  | modelStatus (payload : ModelStatus)
  | scheduleState (payload : ScheduleState)
  | tokenChunk (payload : TokenChunk)
  | done (payload : Done)
  | error (payload : ProtoError)
  | catalogResponse (payload : CatalogResponse)
  | promptDispatch (payload : PromptDispatch)

def Message.isRegister : Message → Bool
  | .register _ => true
  | _ => false

end JwSwarm.Proto
