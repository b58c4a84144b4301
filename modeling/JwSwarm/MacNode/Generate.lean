import Mathlib.Logic.Function.Basic
import JwSwarm.MacNode.Backend

namespace JwSwarm.MacNode

open Data Proto

/-! Inference on the loaded models. Each of them keeps its context, and with it
its cache, until it is unloaded. -/

abbrev Token := ℕ

/-- The tokens of a batch with their positions, all of one sequence; the
logits of the last one are asked for. -/
abbrev Batch := List (Token × ℕ)

/-- The inference library. A context is the cache that decoding reads and
extends; what decoding does depends on the model, the cache and the batch. -/
structure Llama (Artifact : Type) where
  Cache : Type
  empty : Cache
  Logit : Type
  exceeds : Logit → Logit → Bool
  tokenize : Artifact → String → List Token
  vocabSize : Artifact → ℕ
  eos : Artifact → Token
  piece : Artifact → Token → Option String
  decode : Artifact → Cache → Batch → Cache × Bool
  logits : Artifact → Cache → Batch → Option (ℕ → Logit)

structure Request where
  prompt : String
  maxTokens : ℕ
  positive : 1 ≤ maxTokens
  bounded : maxTokens ≤ 512
  deriving DecidableEq

namespace Llama

variable {Artifact : Type}

/-- The first of the tokens with the largest logit. -/
def nextToken (library : Llama Artifact) (artifact : Artifact)
    (logits : ℕ → library.Logit) : Token :=
  (List.range' 1 (library.vocabSize artifact - 1)).foldl
    (fun best index =>
      if library.exceeds (logits index) (logits best) then index else best) 0

def append (generated : List String) : Option String → List String
  | some piece => if piece.isEmpty then generated else generated ++ [piece]
  | none => generated

def generateLoop (library : Llama Artifact) (artifact : Artifact) :
    ℕ → library.Cache → Batch → ℕ → List String →
      library.Cache × Except BackendError (List String)
  | 0, cache, _, _, generated => (cache, .ok generated)
  | turns + 1, cache, batch, nCur, generated =>
      match library.logits artifact cache batch with
      | none => (cache, .error .logitsMissing)
      | some logits =>
          let token := library.nextToken artifact logits
          if token = library.eos artifact then (cache, .ok generated)
          else
            let decoded := library.decode artifact cache [(token, nCur)]
            if decoded.2 then
              generateLoop library artifact turns decoded.1 [(token, nCur)]
                (nCur + 1) (append generated (library.piece artifact token))
            else (decoded.1, .error .decodeFailed)

def usage (promptTokens generated : ℕ) : Usage where
  promptTokens := .ofNat promptTokens
  completionTokens := .ofNat generated
  totalTokens := .ofNat (promptTokens + generated)

def generate (library : Llama Artifact) (artifact : Artifact)
    (cache : library.Cache) (request : Request) :
    library.Cache × Except BackendError (List String × Usage) :=
  let promptTokens := library.tokenize artifact request.prompt
  if promptTokens = [] then (cache, .error .tokenizeFailed)
  else
    let batch := promptTokens.zipIdx
    let decoded := library.decode artifact cache batch
    if decoded.2 then
      let looped := library.generateLoop artifact request.maxTokens decoded.1
        batch promptTokens.length []
      (looped.1, looped.2.map fun generated =>
        (generated, usage promptTokens.length generated.length))
    else (decoded.1, .error .decodeFailed)

end Llama

structure Serving (Artifact Context : Type) where
  fresh : Context
  serve : Artifact → Context → Request → Context × Bool

/-- `files`, `artifact` and `loads` are what the backend finds on the disk and
whether the library loads it. -/
inductive Call (Artifact : Type) where
  | updateMemoryLimitMb (files : Files) (value : ℕ)
  | register (files : Files) (id : ModelId)
  | dispatch (id : ModelId) (request : Request) (files : Files)
      (artifact : Artifact) (loads : Bool)

structure Residency (Artifact Context : Type) where
  backend : LlamaBackend
  held : ModelId → Option (Artifact × Context)

def LlamaBackend.canLoad (backend : LlamaBackend) (files : Files)
    (id : ModelId) (loads : Bool) : Bool :=
  decide (id ∈ backend.loaded) || (backend.fitsLimit files id && loads)

namespace Residency

variable {Artifact Context : Type}

def init (memoryLimitMb : ℕ) : Residency Artifact Context where
  backend := { memoryLimitMb }
  held := fun _ => none

def item (state : Residency Artifact Context) (fresh : Context)
    (id : ModelId) (artifact : Artifact) : Artifact × Context :=
  if id ∈ state.backend.loaded then (state.held id).getD (artifact, fresh)
  else (artifact, fresh)

def step (serving : Serving Artifact Context)
    (state : Residency Artifact Context) :
    Call Artifact → Option (Residency Artifact Context)
  | .updateMemoryLimitMb files value => some { state with
      backend := state.backend.updateMemoryLimitMb files value }
  | .register files id => some { state with
      backend := state.backend.register files id }
  | .dispatch id request files artifact loads =>
      let item := state.item serving.fresh id artifact
      let served := serving.serve item.1 item.2 request
      if id ∈ state.backend.readyModels ∧
          state.backend.canLoad files id loads = true ∧ served.2 = true then
        some {
          backend := state.backend.ensureLoaded files id loads
          held := Function.update state.held id (some (item.1, served.1)) }
      else none

def run (serving : Serving Artifact Context)
    (state : Residency Artifact Context) (calls : List (Call Artifact)) :
    Option (Residency Artifact Context) :=
  calls.foldlM (step serving) state

end Residency

end JwSwarm.MacNode
