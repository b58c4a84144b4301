import JwSwarm.Transition.Simulation
import JwSwarm.WindowsNode.Backend

namespace JwSwarm.WindowsNode

open Data Proto Transition Machine

/-! A server that answers one prompt after the other, and has each model in
memory in one step. -/

abbrev Piece := { text : String // text.isEmpty = false }

inductive Ending where
  | done (promptTokens : UInt32)
  | failed (message : String)

structure Reply where
  prompt : PromptDispatch
  pieces : List Piece := []
  ending : Option Ending := none

def Reply.chunks (reply : Reply) : List Message :=
  reply.pieces.mapIdx fun index piece =>
    tokenChunk reply.prompt piece.1 (.ofNat index)

def Reply.last (reply : Reply) : Option Message :=
  reply.ending.map fun
    | .done promptTokens =>
        WindowsNode.done reply.prompt promptTokens (.ofNat reply.pieces.length)
    | .failed message => inferenceFailed reply.prompt message

def Reply.frames (reply : Reply) : List Message :=
  reply.chunks ++ reply.last.toList

structure Server where
  cache : BackendManager
  waiting : List PromptDispatch := []
  draft : Option Reply := none
  replies : List Reply := []
  refused : List PromptDispatch := []

/-- `failure` is why the model does not load, if it has to. -/
inductive ServerEvent where
  | register (id : ModelId) (file : Artifact)
  | submit (prompt : PromptDispatch)
  | start (index : ℕ) (file : Artifact) (failure : Option String)
  | piece (text : Piece)
  | finish (ending : Ending)
  | report

namespace Server

def submit (server : Server) (prompt : PromptDispatch) : Server :=
  if prompt.model ∈ server.cache.ready then
    { server with waiting := server.waiting ++ [prompt] }
  else { server with refused := server.refused ++ [prompt] }

def loadEnding (failure : Option String) : Except LoadError ℕ → Option Ending
  | .ok _ => none
  | .error _ => some (.failed (failure.getD ""))

def start (server : Server) (index : ℕ) (prompt : PromptDispatch)
    (file : Artifact) (failure : Option String) : Server :=
  let (cache, loaded) :=
    server.cache.ensureLoaded prompt.model file failure.isNone
  { server with
    cache
    waiting := server.waiting.eraseIdx index
    draft := some { prompt, ending := loadEnding failure loaded } }

def step (server : Server) : ServerEvent → Option Server
  | .register id file =>
      some { server with cache := server.cache.register id file }
  | .submit prompt => some (server.submit prompt)
  | .start index file failure =>
      match server.draft, server.waiting[index]? with
      | none, some prompt => some (server.start index prompt file failure)
      | _, _ => none
  | .piece text =>
      match server.draft with
      | some { prompt, pieces, ending := none } =>
          some { server with
            draft := some { prompt, pieces := pieces ++ [text] } }
      | _ => none
  | .finish ending =>
      match server.draft with
      | some { prompt, pieces, ending := none } =>
          some { server with
            draft := some { prompt, pieces, ending := some ending } }
      | _ => none
  | .report =>
      match server.draft with
      | some reply =>
          if reply.ending.isSome then
            some { server with
              draft := none
              replies := server.replies ++ [reply] }
          else none
      | none => none

end Server

def server (memoryLimitMb : ℕ) : Machine Server ServerEvent where
  init := { cache := .new memoryLimitMb }
  step := Server.step

namespace Server

def prompts (server : Server) : List PromptDispatch :=
  server.replies.map Reply.prompt ++
    (server.draft.toList.map Reply.prompt ++ server.waiting)

def frames (server : Server) : List Message :=
  server.replies.flatMap Reply.frames ++
    server.draft.toList.flatMap Reply.chunks

/-- The replies that have come to their end, the last maybe not reported. -/
def concluded (server : Server) : List Reply :=
  server.replies ++
    server.draft.toList.filter fun reply => reply.ending.isSome

end Server

def addReply (id : ModelId) (usage : ModelTokenUsage) (reply : Reply) :
    ModelTokenUsage :=
  match reply.ending with
  | some (.done promptTokens) =>
      if reply.prompt.model = id then
        usage.add promptTokens (.ofNat reply.pieces.length)
      else usage
  | _ => usage

/-- The tokens of a model over all replies that are done. -/
def counted (replies : List Reply) (id : ModelId) : ModelTokenUsage :=
  replies.foldl (addReply id) {}

def addCompletion (total : UInt64) (reply : Reply) : UInt64 :=
  match reply.ending with
  | some (.done _) => total + (UInt32.ofNat reply.pieces.length).toUInt64
  | _ => total

def countedTotal (replies : List Reply) : UInt64 :=
  replies.foldl addCompletion 0

variable {serving : Server} {cache : BackendManager} {shared : Shared}
variable {id : ModelId} {file : Artifact} {limitMb sizeMb : ℕ}
variable {reply : Reply} {replies : List Reply} {prompt : PromptDispatch}
variable {pieces : List Piece} {message : String} {promptTokens : UInt32}

theorem ensureLoaded_resident
    (found : cache.loaded.lookup id = some sizeMb) :
    cache.ensureLoaded id none true = (cache.touch id, .ok sizeMb) := by
  rw [BackendManager.ensureLoaded, found]

theorem ensureLoaded_absent (missing : cache.loaded.lookup id = none) :
    cache.ensureLoaded id none false = (cache, .error .noArtifact) := by
  rw [BackendManager.ensureLoaded, missing]

theorem ensureLoaded_loads (missing : cache.loaded.lookup id = none) :
    cache.ensureLoaded id (some (some sizeMb)) true =
      (((cache.trimLoadedToBudget id sizeMb).load id sizeMb).touch id,
        .ok sizeMb) := by
  rw [BackendManager.ensureLoaded, missing]
  rfl

theorem ensureLoaded_fails (missing : cache.loaded.lookup id = none) :
    cache.ensureLoaded id (some (some sizeMb)) false =
      (cache.trimLoadedToBudget id sizeMb, .error .loadFailed) := by
  rw [BackendManager.ensureLoaded, missing]
  rfl

private theorem trimTurn_register {preferred : ModelId} {sizeMb : ℕ} :
    (cache.register id file).trimTurn preferred sizeMb =
      (cache.trimTurn preferred sizeMb).map fun cache =>
        cache.register id file := by
  unfold BackendManager.trimTurn
  rw [apply_ite (Option.map _), apply_ite (Option.map _), Option.map_map]
  rfl

theorem trimLoadedToBudget_register {preferred : ModelId} {sizeMb : ℕ} :
    (cache.register id file).trimLoadedToBudget preferred sizeMb =
      (cache.trimLoadedToBudget preferred sizeMb).register id file :=
  Lru.untilNone_map fun _ => trimTurn_register

theorem ready_trimLoadedToBudget {preferred : ModelId} {sizeMb : ℕ} :
    (cache.trimLoadedToBudget preferred sizeMb).ready = cache.ready := by
  refine @Lru.untilNone_invariant _ _ cache
    (fun other => other.ready = cache.ready) _ ?_ rfl
  intro before next same turned
  unfold BackendManager.trimTurn at turned
  split at turned
  · cases turned
  · split at turned
    · cases turned
    · obtain ⟨id, found, rfl⟩ := Option.map_eq_some_iff.mp turned
      exact same

theorem counted_concat :
    counted (replies ++ [reply]) id =
      addReply id (counted replies id) reply := by
  rw [counted, List.foldl_append]
  rfl

theorem countedTotal_concat :
    countedTotal (replies ++ [reply]) =
      addCompletion (countedTotal replies) reply := by
  rw [countedTotal, List.foldl_append]
  rfl

theorem usageOf_count {model : ModelId} {completionTokens : UInt32} :
    (shared.count model promptTokens completionTokens).usageOf id =
      if model = id then
        (shared.usageOf id).add promptTokens completionTokens
      else shared.usageOf id := by
  rw [Shared.usageOf, Shared.count]
  split
  · next same => rw [same, AList.lookup_insert, Option.getD_some]
  · next other => rw [AList.lookup_insert_ne fun same => other same.symm]; rfl

theorem chunks_concat {text : Piece} :
    Reply.chunks { prompt, pieces := pieces ++ [text] } =
      Reply.chunks { prompt, pieces } ++
        [tokenChunk prompt text.1 (.ofNat pieces.length)] :=
  List.mapIdx_concat

inductive ServerMove (serving : Server) : ServerEvent → Server → Prop
  | register (id : ModelId) (file : Artifact) :
      ServerMove serving (.register id file)
        { serving with cache := serving.cache.register id file }
  | submit (prompt : PromptDispatch) :
      ServerMove serving (.submit prompt) (serving.submit prompt)
  | start {index : ℕ} {prompt : PromptDispatch} {file : Artifact}
      {failure : Option String} (idle : serving.draft = none)
      (found : serving.waiting[index]? = some prompt) :
      ServerMove serving (.start index file failure)
        (serving.start index prompt file failure)
  | piece {prompt : PromptDispatch} {pieces : List Piece} {text : Piece}
      (drafted : serving.draft = some { prompt, pieces }) :
      ServerMove serving (.piece text)
        { serving with draft := some { prompt, pieces := pieces ++ [text] } }
  | finish {prompt : PromptDispatch} {pieces : List Piece} {ending : Ending}
      (drafted : serving.draft = some { prompt, pieces }) :
      ServerMove serving (.finish ending)
        { serving with draft := some { prompt, pieces, ending := some ending } }
  | report {reply : Reply} (drafted : serving.draft = some reply)
      (ended : reply.ending.isSome = true) :
      ServerMove serving .report
        { serving with draft := none, replies := serving.replies ++ [reply] }

theorem step_move {event : ServerEvent} {advanced : Server}
    (taken : serving.step event = some advanced) :
    ServerMove serving event advanced := by
  cases event with
  | register id file =>
      obtain rfl := Option.some.inj taken
      exact .register id file
  | submit prompt =>
      obtain rfl := Option.some.inj taken
      exact .submit prompt
  | start index file failure =>
      simp only [Server.step] at taken
      split at taken
      · next idle found =>
          obtain rfl := Option.some.inj taken
          exact .start idle found
      · cases taken
  | piece text =>
      simp only [Server.step] at taken
      split at taken
      · next drafted =>
          obtain rfl := Option.some.inj taken
          exact .piece drafted
      · cases taken
  | finish ending =>
      simp only [Server.step] at taken
      split at taken
      · next drafted =>
          obtain rfl := Option.some.inj taken
          exact .finish drafted
      · cases taken
  | report =>
      simp only [Server.step] at taken
      split at taken
      · next drafted =>
          split at taken
          · next ended =>
              obtain rfl := Option.some.inj taken
              exact .report drafted ended
          · cases taken
      · cases taken

inductive Advances (serving : Server) : Server → Prop
  | stay : Advances serving serving
  | step {event : ServerEvent} {next : Server}
      (own : ∀ prompt, event ≠ .submit prompt)
      (taken : serving.step event = some next) : Advances serving next

theorem prompts_submit :
    (serving.submit prompt).prompts =
      serving.prompts ++
        (if prompt.model ∈ serving.cache.ready then [prompt] else []) := by
  unfold Server.submit
  split
  · rw [Server.prompts, Server.prompts, List.append_assoc, List.append_assoc]
  · exact (List.append_nil _).symm

theorem refused_submit :
    (serving.submit prompt).refused =
      serving.refused ++
        (if prompt.model ∈ serving.cache.ready then [] else [prompt]) := by
  unfold Server.submit
  split
  · exact (List.append_nil _).symm
  · rfl

theorem Advances.prompts_perm {advanced : Server}
    (advance : Advances serving advanced) :
    advanced.prompts.Perm serving.prompts ∧
      advanced.refused = serving.refused := by
  cases advance with
  | stay => exact ⟨.refl _, rfl⟩
  | step own taken =>
      cases step_move taken with
      | register id file => exact ⟨.refl _, rfl⟩
      | submit prompt => exact absurd rfl (own prompt)
      | start idle found =>
          refine ⟨.append_left _ ?_, rfl⟩
          obtain ⟨inside, rfl⟩ := List.getElem?_eq_some_iff.mp found
          rw [idle]
          exact List.getElem_cons_eraseIdx_perm inside
      | piece drafted =>
          rw [Server.prompts, Server.prompts, drafted]
          exact ⟨.refl _, rfl⟩
      | finish drafted =>
          rw [Server.prompts, Server.prompts, drafted]
          exact ⟨.refl _, rfl⟩
      | report drafted ended =>
          rw [Server.prompts, Server.prompts, drafted, List.map_append,
            List.append_assoc]
          exact ⟨.refl _, rfl⟩

theorem Advances.reaches {advanced : Server}
    (advance : Advances serving advanced) :
    (server limitMb).Reaches serving advanced := by
  cases advance with
  | stay => exact .refl
  | step own taken => exact .of_step taken

variable {past : History Server ServerEvent}

theorem ended_run (run : (server limitMb).Run past serving) :
    ∀ reply ∈ serving.replies, reply.ending.isSome = true := by
  induction run with
  | start => intro reply member; cases member
  | next run taken ih =>
      cases step_move taken with
      | submit prompt =>
          unfold Server.submit
          split
          · exact ih
          · exact ih
      | report drafted ended =>
          intro reply member
          rcases List.mem_append.mp member with earlier | last
          · exact ih reply earlier
          · rwa [List.mem_singleton.mp last]
      | _ => exact ih

end JwSwarm.WindowsNode
