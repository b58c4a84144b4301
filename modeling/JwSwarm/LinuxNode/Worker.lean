import JwSwarm.Proto.Message
import JwSwarm.Transition.Machine

namespace JwSwarm.LinuxNode

open Proto Transition

/-! The backend's worker thread, the queue of its jobs and the frames that it
and `dispatch` pass to the tunnel. What the inference library and the
serialiser answer is part of the events. -/

inductive GenerateError where
  | modelFileMissing (model : ModelId)
  | modelTooLarge (model : ModelId) (sizeMb limitMb : ℕ)
  | loadFailed (model : ModelId) (cause : String)
  | tokenizeFailed (cause : String)
  | noTokens
  | contextFailed (model : ModelId) (cause : String)
  | batchFull (cause : String)
  | decodeFailed (cause : String)
  | unserialised (cause : String)

def GenerateError.message : GenerateError → String
  | .modelFileMissing model => "Model file missing for " ++ model
  | .modelTooLarge model sizeMb limitMb =>
      "Model " ++ model ++ " is " ++ toString sizeMb ++
        "MB, over configured memory limit " ++ toString limitMb ++ "MB"
  | .loadFailed model cause => "Failed to load model " ++ model ++ ": " ++ cause
  | .tokenizeFailed cause => "Failed to tokenize input: " ++ cause
  | .noTokens => "Failed to tokenize input"
  | .contextFailed model cause =>
      "Failed to create context for " ++ model ++ ": " ++ cause
  | .batchFull cause => cause
  | .decodeFailed cause => "Decoding failed: " ++ cause
  | .unserialised cause => cause

def messageContent (message : Json) : Option String :=
  ((message.get "content").bind Json.asStr).filter fun text => !text.isEmpty

def extractPrompt (payload : Json) : String :=
  let chat := ((payload.get "messages").bind Json.asArray).bind
    fun messages => messages.reverse.findSome? messageContent
  chat.getD (((payload.get "prompt").bind Json.asStr).getD "")

def extractMaxTokens (payload : Json) : ℕ :=
  match payload.get "max_tokens" with
  | some (.number (.posInt value)) => max 1 (min value.toNat 512)
  | _ => 128

/-- Where the worker is in `worker_loop` and `generate`. `index` counts the
turns of the generation loop that are over. -/
inductive WorkerPhase where
  | starting
  | receiving
  | preparing (job : PromptDispatch)
  | generating (job : PromptDispatch) (promptTokens index : ℕ)
  | finishing (job : PromptDispatch) (promptTokens completionTokens : ℕ)
  | failing (job : PromptDispatch) (error : GenerateError)
  | exited

structure BackendState where
  phase : WorkerPhase := .starting
  jobs : List PromptDispatch := []
  frames : List Message := []

/-- One turn of the generation loop: the token ends the text, its chunk cannot
be serialised, or it becomes a piece of text and is decoded. -/
inductive Turn where
  | endOfGeneration
  | unserialised (cause : String)
  | token (piece : Option String) (failure : Option GenerateError)

/-- `serialises` tells whether the frame that the step has to send, if any,
can be serialised. -/
inductive BackendEvent where
  | dispatch (prompt : PromptDispatch) (ready serialises : Bool)
  | init (succeeds : Bool)
  | recv
  | prepare (outcome : Except GenerateError ℕ)
  | turn (outcome : Turn)
  | finish (outcome : Except String Unit)
  | report (serialises : Bool)

namespace BackendState

def send (state : BackendState) (frame : Message) : BackendState :=
  { state with frames := state.frames ++ [frame] }

/-- The thread ends, and the receiver of the queue with it. -/
def exit (state : BackendState) : BackendState :=
  { state with phase := .exited, jobs := [] }

end BackendState

/-- An error that cannot be serialised panics the thread that reports it. -/
def reportError (state : BackendState) (requestId : RequestId)
    (message : String) (serialises : Bool) : BackendState :=
  if serialises then state.send (.error { requestId, message }) else state

/-- `BackendManager::dispatch`. -/
def stepDispatch (state : BackendState) (prompt : PromptDispatch)
    (ready serialises : Bool) : BackendState :=
  if ready then
    match state.phase with
    | .exited => reportError state prompt.requestId
        "backend worker unavailable" serialises
    | _ => { state with jobs := state.jobs ++ [prompt] }
  else reportError state prompt.requestId
    ("Model file missing for " ++ prompt.model) serialises

def sendPiece (state : BackendState) (job : PromptDispatch) (index : ℕ) :
    Option String → BackendState
  | some piece =>
      if piece.isEmpty then state
      else state.send (.tokenChunk {
        requestId := job.requestId
        delta := piece
        index := .ofNat index })
  | none => state

def afterToken (job : PromptDispatch) (promptTokens index : ℕ) :
    Option GenerateError → WorkerPhase
  | none => .generating job promptTokens (index + 1)
  | some error => .failing job error

def stepTurn (state : BackendState) (job : PromptDispatch)
    (promptTokens index : ℕ) (outcome : Turn) : BackendState :=
  if index < extractMaxTokens job.payload then
    match outcome with
    | .endOfGeneration =>
        { state with phase := .finishing job promptTokens index }
    | .unserialised cause =>
        { state with phase := .failing job (.unserialised cause) }
    | .token piece failure =>
        { sendPiece state job index piece with
          phase := afterToken job promptTokens index failure }
  else { state with phase := .finishing job promptTokens index }

def done (job : PromptDispatch) (promptTokens completionTokens : ℕ) : Done where
  requestId := job.requestId
  usage := {
    promptTokens := .ofNat promptTokens
    completionTokens := .ofNat completionTokens
    totalTokens := .ofNat (promptTokens + completionTokens) }

def stepBackend (state : BackendState) : BackendEvent → Option BackendState
  | .dispatch prompt ready serialises =>
      some (stepDispatch state prompt ready serialises)
  | .init succeeds =>
      match state.phase with
      | .starting =>
          some (if succeeds then { state with phase := .receiving }
            else state.exit)
      | _ => none
  | .recv =>
      match state.phase, state.jobs with
      | .receiving, job :: jobs => some { state with
          phase := .preparing job, jobs }
      | _, _ => none
  | .prepare outcome =>
      match state.phase with
      | .preparing job => some { state with
          phase := match outcome with
            | .ok promptTokens => .generating job promptTokens 0
            | .error error => .failing job error }
      | _ => none
  | .turn outcome =>
      match state.phase with
      | .generating job promptTokens index =>
          some (stepTurn state job promptTokens index outcome)
      | _ => none
  | .finish outcome =>
      match state.phase, outcome with
      | .finishing job promptTokens completionTokens, .ok _ =>
          some ({ state with phase := .receiving }.send
            (.done (done job promptTokens completionTokens)))
      | .finishing job _ _, .error cause =>
          some { state with phase := .failing job (.unserialised cause) }
      | _, _ => none
  | .report serialises =>
      match state.phase with
      | .failing job error =>
          if serialises then
            some (reportError { state with phase := .receiving } job.requestId
              error.message true)
          else some state.exit
      | _ => none

def backend : Machine BackendState BackendEvent where
  init := {}
  step := stepBackend

theorem extractMaxTokens_le (payload : Json) :
    extractMaxTokens payload ≤ 512 := by
  unfold extractMaxTokens
  split <;> omega

end JwSwarm.LinuxNode
