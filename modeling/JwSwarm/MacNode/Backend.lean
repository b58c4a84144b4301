import Mathlib.Algebra.GroupWithZero.Nat
import Mathlib.Data.List.AList
import Mathlib.Data.String.Basic
import JwSwarm.Data.KeySet
import JwSwarm.Data.Lru
import JwSwarm.Proto.Message

namespace JwSwarm.MacNode

open Data Proto

/-! The llama backend: the ready models, those resident in memory, and the
frames it passes to its sender for one prompt. -/

/-- The size in MB of the file in a model's directory, if it can be read. -/
abbrev Files := ModelId → Option ℕ

/-- `loaded` holds the resident size of each loaded model, `loadedOrder` their
order of use, the oldest first. -/
structure LlamaBackend where
  readyModels : KeySet ModelId := ∅
  loaded : AList fun _ : ModelId => ℕ := ∅
  loadedOrder : List ModelId := []
  memoryLimitMb : ℕ

namespace LlamaBackend

def fitsLimit (backend : LlamaBackend) (files : Files) (id : ModelId) : Bool :=
  (files id).any fun size => size ≤ backend.memoryLimitMb

def register (backend : LlamaBackend) (files : Files) (id : ModelId) :
    LlamaBackend :=
  { backend with
    readyModels :=
      if backend.fitsLimit files id then backend.readyModels.insert id
      else backend.readyModels.erase id }

def ready (backend : LlamaBackend) : List ModelId :=
  backend.readyModels.sorted

def unload (backend : LlamaBackend) (id : ModelId) : LlamaBackend :=
  { backend with
    loaded := backend.loaded.erase id
    loadedOrder := backend.loadedOrder.filter (· ≠ id) }

def unloadLoadedModel (backend : LlamaBackend) (id : ModelId)
    (removeFromReady : Bool) : LlamaBackend :=
  if id ∈ backend.loaded then
    let unloaded := backend.unload id
    if removeFromReady then
      { unloaded with readyModels := unloaded.readyModels.erase id }
    else unloaded
  else backend

def unloadOversizedModelsIfNeeded (backend : LlamaBackend) (files : Files) :
    LlamaBackend :=
  backend.loaded.keys.foldl
    (fun backend id =>
      match files id with
      | some size =>
          if backend.memoryLimitMb < size then
            backend.unloadLoadedModel id true
          else backend
      | none => backend)
    backend

def loadedResidentMemoryMb (backend : LlamaBackend)
    (excluded : Option ModelId) : ℕ :=
  ((backend.loaded.entries.filter fun entry =>
    some entry.1 ≠ excluded).map Sigma.snd).sum

/-- Each turn of the loop unloads one of the loaded models. -/
def trimLoop (preferred : Option ModelId) (reservingMb : ℕ) :
    ℕ → LlamaBackend → LlamaBackend
  | 0, backend => backend
  | turns + 1, backend =>
      if backend.memoryLimitMb <
          backend.loadedResidentMemoryMb preferred + reservingMb then
        match backend.loadedOrder.find? fun id => some id ≠ preferred with
        | some candidate => trimLoop preferred reservingMb turns
            (backend.unloadLoadedModel candidate false)
        | none => backend
      else backend

def trimLoadedModelsToFitBudget (backend : LlamaBackend)
    (preferred : Option ModelId) (reservingMb : ℕ) : LlamaBackend :=
  trimLoop preferred reservingMb backend.loadedOrder.length backend

def updateMemoryLimitMb (backend : LlamaBackend) (files : Files)
    (value : ℕ) : LlamaBackend :=
  ({ backend with memoryLimitMb := value }.unloadOversizedModelsIfNeeded
    files).trimLoadedModelsToFitBudget none 0

def touchLoadedModel (backend : LlamaBackend) (id : ModelId) : LlamaBackend :=
  { backend with
    loadedOrder := backend.loadedOrder.filter (· ≠ id) ++ [id] }

/-- `loads` tells whether the inference library loads the file and creates a
context for it. The model's size is read twice, for the check of the limit and
for the trim; `files` is taken not to change in between. -/
def ensureLoaded (backend : LlamaBackend) (files : Files) (id : ModelId)
    (loads : Bool) : LlamaBackend :=
  if id ∈ backend.loaded then backend.touchLoadedModel id
  else
    match files id with
    | none => backend
    | some size =>
        if backend.memoryLimitMb < size then backend
        else
          let trimmed := backend.trimLoadedModelsToFitBudget none size
          if loads then
            let inserted := { trimmed with
              loaded := trimmed.loaded.insert id size }
            (inserted.touchLoadedModel id).trimLoadedModelsToFitBudget
              (some id) 0
          else trimmed

/-- One turn of the loop in `trimLoadedModelsToFitBudget`, if there is one. -/
def trimTurn (preferred : Option ModelId) (reservingMb : ℕ)
    (backend : LlamaBackend) : Option LlamaBackend :=
  if backend.memoryLimitMb <
      backend.loadedResidentMemoryMb preferred + reservingMb then
    (backend.loadedOrder.find? fun id => some id ≠ preferred).map
      fun candidate => backend.unloadLoadedModel candidate false
  else none

section Turns

variable {backend next : LlamaBackend} {preferred : Option ModelId}
variable {reservingMb turns : ℕ}

theorem trimTurn_eq_some
    (turned : backend.trimTurn preferred reservingMb = some next) :
    ∃ candidate ∈ backend.loadedOrder, some candidate ≠ preferred ∧
      next = backend.unloadLoadedModel candidate false := by
  unfold trimTurn at turned
  split at turned
  · obtain ⟨candidate, found, rfl⟩ := Option.map_eq_some_iff.mp turned
    have other := List.find?_some found
    exact ⟨candidate, List.mem_of_find?_eq_some found,
      of_decide_eq_true other, rfl⟩
  · cases turned

theorem trimLoop_eq_untilNone :
    trimLoop preferred reservingMb turns backend =
      Lru.untilNone (trimTurn preferred reservingMb) turns backend := by
  induction turns generalizing backend with
  | zero => rfl
  | succ turns ih =>
      rw [trimLoop, Lru.untilNone, trimTurn]
      split
      · split
        · next candidate found => rw [found, ih, Option.map_some]
        · next none => rw [none, Option.map_none]
      · rfl

/-- Trimming keeps what the unloading of any but the preferred model keeps. -/
theorem trimLoop_invariant (holds : LlamaBackend → Prop)
    (kept : ∀ {backend candidate}, some candidate ≠ preferred →
      holds backend → holds (backend.unloadLoadedModel candidate false))
    (start : holds backend) :
    holds (trimLoop preferred reservingMb turns backend) := by
  rw [trimLoop_eq_untilNone]
  apply Lru.untilNone_invariant _ start
  intro backend next start turned
  obtain ⟨candidate, -, other, rfl⟩ := trimTurn_eq_some turned
  exact kept other start

end Turns

@[simp] theorem readyModels_unload (backend : LlamaBackend) (id : ModelId) :
    (backend.unload id).readyModels = backend.readyModels := rfl

@[simp] theorem readyModels_unloadLoadedModel (backend : LlamaBackend)
    (id : ModelId) :
    (backend.unloadLoadedModel id false).readyModels =
      backend.readyModels := by
  unfold unloadLoadedModel
  split <;> rfl

@[simp] theorem readyModels_trimLoop (preferred : Option ModelId)
    (reservingMb turns : ℕ) (backend : LlamaBackend) :
    (trimLoop preferred reservingMb turns backend).readyModels =
      backend.readyModels := by
  apply trimLoop_invariant fun trimmed =>
    trimmed.readyModels = backend.readyModels
  · intro trimmed candidate _ same
    rw [readyModels_unloadLoadedModel, same]
  · rfl

@[simp] theorem readyModels_trimLoadedModelsToFitBudget
    (backend : LlamaBackend) (preferred : Option ModelId) (reservingMb : ℕ) :
    (backend.trimLoadedModelsToFitBudget preferred reservingMb).readyModels =
      backend.readyModels :=
  readyModels_trimLoop _ _ _ _

theorem readyModels_ensureLoaded (backend : LlamaBackend) (files : Files)
    (id : ModelId) (loads : Bool) :
    (backend.ensureLoaded files id loads).readyModels =
      backend.readyModels := by
  unfold ensureLoaded
  split
  · rfl
  · split
    · rfl
    · split
      · rfl
      · simp only
        split
        · simp [touchLoadedModel]
        · simp

end LlamaBackend

inductive BackendError where
  | modelFileMissing (id : ModelId)
  | modelTooLarge (model : ModelId) (sizeMb limitMb : ℕ)
  | loadFailed (id : ModelId)
  | contextInitFailed (id : ModelId)
  | tokenizeFailed
  | decodeFailed
  | logitsMissing

def BackendError.errorDescription : BackendError → String
  | .modelFileMissing id => "Model file missing for " ++ id
  | .modelTooLarge model sizeMb limitMb =>
      "Model " ++ model ++ " is " ++ toString sizeMb ++
        "MB, over configured memory limit " ++ toString limitMb ++ "MB"
  | .loadFailed id => "Failed to load model " ++ id
  | .contextInitFailed id => "Failed to create context for model " ++ id
  | .tokenizeFailed => "Failed to tokenize input"
  | .decodeFailed => "Decoding failed"
  | .logitsMissing => "Failed to read logits"

structure Completion where
  chunks : List String
  usage : Usage

namespace Completion

def tokenChunks (completion : Completion) (requestId : RequestId) :
    List TokenChunk :=
  completion.chunks.mapIdx fun index delta =>
    { requestId, delta, index := .ofNat index }

def done (completion : Completion) (requestId : RequestId) : Done :=
  { requestId, usage := completion.usage }

def frames (completion : Completion) (requestId : RequestId) : List Message :=
  (completion.tokenChunks requestId).map .tokenChunk ++
    [.done (completion.done requestId)]

end Completion

/-- `generate` stands for the prompt's extraction from the payload and the
inference library. -/
def dispatch (readyModels : KeySet ModelId)
    (generate : ModelId → Json → Except BackendError Completion)
    (prompt : PromptDispatch) : List Message :=
  let result :=
    if prompt.model ∈ readyModels then generate prompt.model prompt.payload
    else .error (.modelFileMissing prompt.model)
  match result with
  | .ok completion => completion.frames prompt.requestId
  | .error error => [.error {
      requestId := prompt.requestId
      message := error.errorDescription }]

theorem dispatch_ok {readyModels : KeySet ModelId}
    {generate : ModelId → Json → Except BackendError Completion}
    {prompt : PromptDispatch} {completion : Completion}
    (isReady : prompt.model ∈ readyModels)
    (generated : generate prompt.model prompt.payload = .ok completion) :
    dispatch readyModels generate prompt =
      completion.frames prompt.requestId := by
  simp only [dispatch, if_pos isReady, generated]

def joinText (pieces : List String) : String :=
  pieces.foldl (· ++ ·) ""

def textOf (chunks : List TokenChunk) : String :=
  joinText (chunks.map TokenChunk.delta)

theorem textOf_tokenChunks (completion : Completion) (requestId : RequestId) :
    textOf (completion.tokenChunks requestId) = joinText completion.chunks := by
  have deltas : (completion.tokenChunks requestId).map TokenChunk.delta =
      completion.chunks := by
    apply List.ext_getElem
    · simp [Completion.tokenChunks]
    · intro index _ _
      simp [Completion.tokenChunks]
  rw [textOf, deltas]

end JwSwarm.MacNode
