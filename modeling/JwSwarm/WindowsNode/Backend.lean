import JwSwarm.Data.ListSet
import JwSwarm.WindowsNode.Extraction
import JwSwarm.WindowsNode.Residency

namespace JwSwarm.WindowsNode

open Data Proto Transition Machine

/-! The Windows backend at work: `Dispatch` starts a task for each prompt, and
the tasks take turns at the semaphore. What the file system and the inference
library answer is part of the events. -/

structure ModelTokenUsage where
  inputTokens : UInt64 := 0
  outputTokens : UInt64 := 0
  requests : UInt64 := 0
  deriving DecidableEq

def ModelTokenUsage.add (usage : ModelTokenUsage)
    (promptTokens completionTokens : UInt32) : ModelTokenUsage where
  inputTokens := usage.inputTokens + promptTokens.toUInt64
  outputTokens := usage.outputTokens + completionTokens.toUInt64
  requests := usage.requests + 1

/-- Where a task is, from `WaitAsync` on: the three locked parts of
`EnsureLoaded`, the rest of `GenerateAsync`, and the way out. -/
inductive TaskPhase where
  | waiting
  | looking
  | trimming (sizeMb : ℕ)
  | loading (sizeMb : ℕ)
  | tokenizing
  | inferring (promptTokens index : UInt32)
  | reporting (promptTokens completionTokens : UInt32)
  | caught (message : String)
  | releasing
  | finished
  deriving DecidableEq

/-- `dir` is where `Dispatch` found the model registered. -/
structure PromptTask where
  prompt : PromptDispatch
  dir : String
  phase : TaskPhase := .waiting

structure Shared where
  manager : BackendManager
  permits : ℕ := 1
  sent : List Message := []
  tokenUsage : AList fun _ : ModelId => ModelTokenUsage := ∅
  totalCompletionTokens : UInt64 := 0

structure Backend where
  shared : Shared
  tasks : List PromptTask := []

/-- `infer` is one piece of text that the library yields, `complete` the end of
them, and `throw` what it throws instead. -/
inductive TaskStep where
  | wait
  | look (file : Artifact)
  | trim
  | load (outcome : Except String Unit)
  | tokenize (length : Option ℕ)
  | infer (piece : String)
  | complete
  | throw (message : String)
  | report
  | release

inductive BackendEvent where
  | register (id : ModelId) (file : Artifact)
  | dispatch (prompt : PromptDispatch) (dir : String)
  | task (index : ℕ) (step : TaskStep)

namespace Shared

def send (shared : Shared) (frame : Message) : Shared :=
  { shared with sent := shared.sent ++ [frame] }

def usageOf (shared : Shared) (id : ModelId) : ModelTokenUsage :=
  (shared.tokenUsage.lookup id).getD {}

def count (shared : Shared) (id : ModelId)
    (promptTokens completionTokens : UInt32) : Shared :=
  { shared with
    totalCompletionTokens :=
      shared.totalCompletionTokens + completionTokens.toUInt64
    tokenUsage := shared.tokenUsage.insert id
      ((shared.usageOf id).add promptTokens completionTokens) }

/-- At the most permits it throws, and the task ends. -/
def release (shared : Shared) : Shared :=
  if shared.permits < 1 then { shared with permits := shared.permits + 1 }
  else shared

end Shared

def utf16Length (text : String) : ℕ :=
  (text.toList.map fun char => if char.toNat < 0x10000 then 1 else 2).sum

def promptTokens (payload : Json) : Option ℕ → UInt32
  | some length => .ofNat length
  | none => .ofNat (utf16Length (extractPrompt payload) / 4)

def tokenChunk (prompt : PromptDispatch) (delta : String) (index : UInt32) :
    Message :=
  .tokenChunk { requestId := prompt.requestId, delta, index }

def done (prompt : PromptDispatch) (promptTokens completionTokens : UInt32) :
    Message :=
  .done {
    requestId := prompt.requestId
    usage := {
      promptTokens
      completionTokens
      totalTokens := promptTokens + completionTokens } }

def inferenceFailed (prompt : PromptDispatch) (message : String) : Message :=
  .error {
    requestId := prompt.requestId
    message := "inference failed: " ++ message }

def modelFileMissing (prompt : PromptDispatch) : Message :=
  .error {
    requestId := prompt.requestId
    message := "Model file missing for " ++ prompt.model }

/-- The first locked part of `EnsureLoaded`, and the artifact's size. -/
def look (shared : Shared) (task : PromptTask) (file : Artifact) :
    Shared × TaskPhase :=
  match shared.manager.loaded.lookup task.prompt.model with
  | some _ =>
      ({ shared with manager := shared.manager.touch task.prompt.model },
        .tokenizing)
  | none =>
      match file with
      | none => (shared, .caught ("no model artifact in " ++ task.dir))
      | some size => (shared, .trimming (size.getD 1))

def stepTask (shared : Shared) (task : PromptTask) :
    TaskPhase → TaskStep → Option (Shared × TaskPhase)
  | .waiting, .wait =>
      if shared.permits = 0 then none
      else some ({ shared with permits := shared.permits - 1 }, .looking)
  | .looking, .look file => some (look shared task file)
  | .trimming sizeMb, .trim =>
      some ({ shared with
        manager := shared.manager.trimLoadedToBudget task.prompt.model sizeMb },
        .loading sizeMb)
  | .loading sizeMb, .load (.ok _) =>
      some ({ shared with
        manager := (shared.manager.load task.prompt.model sizeMb).touch
          task.prompt.model }, .tokenizing)
  | .loading _, .load (.error cause) => some (shared, .caught cause)
  | .tokenizing, .tokenize length =>
      some (shared, .inferring (promptTokens task.prompt.payload length) 0)
  | .inferring promptTokens index, .infer piece =>
      if piece.isEmpty then some (shared, .inferring promptTokens index)
      else some (shared.send (tokenChunk task.prompt piece index),
        .inferring promptTokens (index + 1))
  | .inferring promptTokens index, .complete =>
      some (shared.count task.prompt.model promptTokens index,
        .reporting promptTokens index)
  | .inferring _ _, .throw message => some (shared, .caught message)
  | .reporting promptTokens completionTokens, .report =>
      some (shared.send (done task.prompt promptTokens completionTokens),
        .releasing)
  | .caught message, .report =>
      some (shared.send (inferenceFailed task.prompt message), .releasing)
  | .releasing, .release => some (shared.release, .finished)
  | _, _ => none

def Backend.dispatch (state : Backend) (prompt : PromptDispatch)
    (dir : String) : Backend :=
  if prompt.model ∈ state.shared.manager.ready then
    { state with tasks := state.tasks ++ [{ prompt, dir }] }
  else { state with shared := state.shared.send (modelFileMissing prompt) }

def stepBackend (state : Backend) : BackendEvent → Option Backend
  | .register id file =>
      some { state with shared := { state.shared with
        manager := state.shared.manager.register id file } }
  | .dispatch prompt dir => some (state.dispatch prompt dir)
  | .task index step =>
      state.tasks[index]?.bind fun task =>
        (stepTask state.shared task task.phase step).map fun (shared, phase) =>
          { shared, tasks := state.tasks.set index { task with phase } }

def backend (memoryLimitMb : ℕ) : Machine Backend BackendEvent where
  init := { shared := { manager := .new memoryLimitMb } }
  step := stepBackend

variable {shared next : Shared} {task : PromptTask} {phase : TaskPhase}
variable {state after : Backend} {step : TaskStep} {index limitMb : ℕ}

inductive TaskMove (shared : Shared) (task : PromptTask) :
    TaskPhase → Shared → TaskPhase → Prop
  | wait (free : shared.permits ≠ 0) :
      TaskMove shared task .waiting
        { shared with permits := shared.permits - 1 } .looking
  | hit {sizeMb : ℕ}
      (found : shared.manager.loaded.lookup task.prompt.model = some sizeMb) :
      TaskMove shared task .looking
        { shared with manager := shared.manager.touch task.prompt.model }
        .tokenizing
  | absent (missing : shared.manager.loaded.lookup task.prompt.model = none) :
      TaskMove shared task .looking shared
        (.caught ("no model artifact in " ++ task.dir))
  | miss (missing : shared.manager.loaded.lookup task.prompt.model = none)
      (sizeMb : ℕ) : TaskMove shared task .looking shared (.trimming sizeMb)
  | trim (sizeMb : ℕ) :
      TaskMove shared task (.trimming sizeMb)
        { shared with
          manager :=
            shared.manager.trimLoadedToBudget task.prompt.model sizeMb }
        (.loading sizeMb)
  | load (sizeMb : ℕ) :
      TaskMove shared task (.loading sizeMb)
        { shared with
          manager := (shared.manager.load task.prompt.model sizeMb).touch
            task.prompt.model }
        .tokenizing
  | loadFailed (sizeMb : ℕ) (cause : String) :
      TaskMove shared task (.loading sizeMb) shared (.caught cause)
  | tokenize (promptTokens : UInt32) :
      TaskMove shared task .tokenizing shared (.inferring promptTokens 0)
  | skip (promptTokens index : UInt32) :
      TaskMove shared task (.inferring promptTokens index) shared
        (.inferring promptTokens index)
  | piece (promptTokens index : UInt32) {delta : String}
      (nonempty : delta.isEmpty = false) :
      TaskMove shared task (.inferring promptTokens index)
        (shared.send (tokenChunk task.prompt delta index))
        (.inferring promptTokens (index + 1))
  | complete (promptTokens index : UInt32) :
      TaskMove shared task (.inferring promptTokens index)
        (shared.count task.prompt.model promptTokens index)
        (.reporting promptTokens index)
  | throw (promptTokens index : UInt32) (message : String) :
      TaskMove shared task (.inferring promptTokens index) shared
        (.caught message)
  | done (promptTokens completionTokens : UInt32) :
      TaskMove shared task (.reporting promptTokens completionTokens)
        (shared.send (done task.prompt promptTokens completionTokens))
        .releasing
  | failed (message : String) :
      TaskMove shared task (.caught message)
        (shared.send (inferenceFailed task.prompt message)) .releasing
  | release : TaskMove shared task .releasing shared.release .finished

private theorem stepTask_move {after : TaskPhase}
    (taken : stepTask shared task phase step = some (next, after)) :
    TaskMove shared task phase next after := by
  unfold stepTask at taken
  split at taken
  case h_1 =>
    split at taken
    · cases taken
    · next free =>
        cases taken
        exact .wait free
  case h_2 file =>
    unfold look at taken
    split at taken
    · next found =>
        cases taken
        exact .hit found
    · next missing =>
        cases file with
        | none =>
            cases taken
            exact .absent missing
        | some size =>
            cases taken
            exact .miss missing _
  case h_3 => cases taken; exact .trim _
  case h_4 => cases taken; exact .load _
  case h_5 => cases taken; exact .loadFailed _ _
  case h_6 => cases taken; exact .tokenize _
  case h_7 =>
    split at taken
    · cases taken
      exact .skip _ _
    · next nonempty =>
        cases taken
        exact .piece _ _ (Bool.eq_false_of_not_eq_true nonempty)
  case h_8 => cases taken; exact .complete _ _
  case h_9 => cases taken; exact .throw _ _ _
  case h_10 => cases taken; exact .done _ _
  case h_11 => cases taken; exact .failed _
  case h_12 => cases taken; exact .release
  case h_13 => cases taken

theorem task_moves
    (taken : stepBackend state (.task index step) = some after) :
    ∃ earlier task later phase,
      state.tasks = earlier ++ task :: later ∧
      after.tasks = earlier ++ { task with phase } :: later ∧
      TaskMove state.shared task task.phase after.shared phase := by
  obtain ⟨task, found, taken⟩ := Option.bind_eq_some_iff.mp taken
  obtain ⟨⟨shared, phase⟩, moved, rfl⟩ := Option.map_eq_some_iff.mp taken
  obtain ⟨earlier, later, whole, replaced⟩ := exists_split found
  exact ⟨earlier, task, later, phase, whole, replaced _, stepTask_move moved⟩

end JwSwarm.WindowsNode
