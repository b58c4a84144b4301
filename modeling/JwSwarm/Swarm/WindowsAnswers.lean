import JwSwarm.Swarm.Answers
import JwSwarm.WindowsNode.Serving

namespace JwSwarm.Swarm

open Data Proto Transition Machine FleetManager
open LinuxNode (frameId framesFor)
open WindowsNode (Reply Piece Ending tokenChunk inferenceFailed modelFileMissing
  accepted refused counted backend answered_all)

/-! What the Fleet Manager's handlers make of the frames of a Windows node. -/

variable {id : RequestId} {reply : Reply} {replies : List Reply}
variable {prompt : PromptDispatch} {ending : Ending} {limitMb : ℕ}
variable {pieces : List Piece}
variable {history : History WindowsNode.Backend WindowsNode.BackendEvent}
variable {final : WindowsNode.Backend}

/-- The exit of the handler's loop for a reply that ends so. -/
def replyExit (reply : Reply) (ending : Ending) : BufferedExit :=
  let content := String.join (reply.pieces.map Subtype.val)
  match ending with
  | .done promptTokens => {
      content
      usage := {
        promptTokens
        completionTokens := .ofNat reply.pieces.length
        totalTokens := promptTokens + .ofNat reply.pieces.length }
      errored := none }
  | .failed message => {
      content
      usage := ⟨0, 0, 0⟩
      errored := some ("inference failed: " ++ message) }

/-- The exit for a prompt whose model is not there. -/
def refusedExit (prompt : PromptDispatch) : BufferedExit where
  content := ""
  usage := ⟨0, 0, 0⟩
  errored := some ("Model file missing for " ++ prompt.model)

private theorem chunks_eq_map (prompt : PromptDispatch) (pieces : List Piece) :
    ∃ chunks : List TokenChunk,
      Reply.chunks { prompt, pieces } = chunks.map .tokenChunk ∧
      (∀ chunk ∈ chunks, chunk.requestId = prompt.requestId) ∧
      chunks.map TokenChunk.delta = pieces.map Subtype.val := by
  induction pieces using List.reverseRecOn with
  | nil => exact ⟨[], rfl, by simp, rfl⟩
  | append_singleton pieces text ih =>
      obtain ⟨chunks, whole, own, deltas⟩ := ih
      refine ⟨chunks ++ [⟨prompt.requestId, text.1, .ofNat pieces.length⟩],
        ?_, ?_, ?_⟩
      · rw [WindowsNode.chunks_concat, whole, List.map_append]
        rfl
      · intro chunk member
        rcases List.mem_append.mp member with earlier | last
        · exact own chunk earlier
        · rw [List.mem_singleton.mp last]
      · rw [List.map_append, List.map_append, deltas]
        rfl

theorem answerTo_own {msg : Message} {event : RequestEvent}
    (said : answer msg = some (id, event)) : answerTo id msg = some event := by
  rw [answerTo, said]
  exact if_pos rfl

private theorem bufferedLoop_reply (ended : reply.ending = some ending) :
    bufferedLoop "" (answers reply.prompt.requestId reply.frames) =
      some (replyExit reply ending) := by
  obtain ⟨prompt, pieces, final⟩ := reply
  obtain rfl : final = some ending := ended
  obtain ⟨chunks, whole, own, deltas⟩ := chunks_eq_map prompt pieces
  have streamed : Reply.chunks ⟨prompt, pieces, some ending⟩ = _ := whole
  rw [Reply.frames, streamed, answers_append, answers_chunks own,
    bufferedLoop_chunks, deltas, String.empty_append]
  cases ending with
  | done promptTokens =>
      have said : answerTo prompt.requestId
          (WindowsNode.done prompt promptTokens (.ofNat pieces.length)) =
            some (.done _) := answerTo_own rfl
      rw [Reply.last, Option.map_some, Option.toList_some, answers_singleton,
        said]
      rfl
  | failed message =>
      have said : answerTo prompt.requestId (inferenceFailed prompt message) =
          some (.error _) := answerTo_own rfl
      rw [Reply.last, Option.map_some, Option.toList_some, answers_singleton,
        said]
      rfl

theorem frameId_frames {frame : Message} (member : frame ∈ reply.frames) :
    frameId frame = some reply.prompt.requestId := by
  rcases List.mem_append.mp member with chunk | last
  · obtain ⟨index, inside, rfl⟩ := List.mem_mapIdx.mp chunk
    rfl
  · obtain ⟨ending, ended, rfl⟩ :=
      Option.map_eq_some_iff.mp (Option.mem_toList.mp last)
    cases ending with
    | done promptTokens => rfl
    | failed message => rfl

section Groups

variable {Item : Type} {items : List Item} {item : Item}
variable {said : Item → List Message} {request : Item → RequestId}

theorem framesFor_groups_other
    (named : ∀ item, ∀ frame ∈ said item, frameId frame = some (request item))
    (absent : id ∉ items.map request) :
    framesFor id (items.flatMap said) = [] := by
  apply List.filter_eq_nil_iff.mpr
  intro frame member same
  obtain ⟨item, inside, own⟩ := List.mem_flatMap.mp member
  have matched := (named item frame own).symm.trans (beq_iff_eq.mp same)
  exact absent (List.mem_map.mpr ⟨item, inside, Option.some.inj matched⟩)

theorem framesFor_groups
    (named : ∀ item, ∀ frame ∈ said item, frameId frame = some (request item))
    (distinct : (items.map request).Nodup) (member : item ∈ items) :
    framesFor (request item) (items.flatMap said) = said item := by
  induction items with
  | nil => cases member
  | cons head rest ih =>
      obtain ⟨fresh, distinct⟩ := List.nodup_cons.mp distinct
      rw [List.flatMap_cons, framesFor, List.filter_append, ← framesFor,
        ← framesFor]
      rcases List.mem_cons.mp member with rfl | later
      · rw [framesFor_groups_other named fresh, List.append_nil]
        apply List.filter_eq_self.mpr
        intro frame own
        exact beq_iff_eq.mpr (named _ frame own)
      · rw [ih distinct later, framesFor, List.filter_eq_nil_iff.mpr,
          List.nil_append]
        intro frame inside same
        have matched := (named _ frame inside).symm.trans (beq_iff_eq.mp same)
        exact fresh (List.mem_map.mpr
          ⟨item, later, (Option.some.inj matched).symm⟩)

end Groups

theorem modelFileMissing_named (prompt : PromptDispatch) :
    ∀ frame ∈ [modelFileMissing prompt],
      frameId frame = some prompt.requestId := by
  intro frame member
  rw [List.mem_singleton.mp member]
  rfl

theorem framesFor_interleaved {first second whole : List Message}
    (woven : Interleaved first second whole)
    (silent : framesFor id second = []) :
    framesFor id whole = framesFor id first := by
  apply woven.filter_left
  intro frame member
  exact Bool.eq_false_of_not_eq_true
    (List.filter_eq_nil_iff.mp silent frame member)

/-- The frames of a request, among all that the backend has sent, are those of
its reply, or the refusal. -/
theorem framesFor_sent (run : (backend limitMb).Run history final)
    (finished : ∀ task ∈ final.tasks, task.phase = .finished)
    (distinct : ((accepted history ++ refused history).map
      PromptDispatch.requestId).Nodup) :
    ∃ replies : List Reply,
      (accepted history).Perm (replies.map Reply.prompt) ∧
      (∀ reply ∈ replies, ∃ ending, reply.ending = some ending ∧
        framesFor reply.prompt.requestId final.shared.sent = reply.frames) ∧
      (∀ prompt ∈ refused history,
        framesFor prompt.requestId final.shared.sent =
          [modelFileMissing prompt]) ∧
      ∀ model, final.shared.usageOf model = counted replies model := by
  obtain ⟨replies, ended, prompts, sent, usage, -⟩ := answered_all run finished
  rw [List.map_append] at distinct
  have apart := List.disjoint_of_nodup_append distinct
  have requests := prompts.map PromptDispatch.requestId
  rw [List.map_map] at requests
  rw [List.map_eq_flatMap] at sent
  refine ⟨replies, prompts, ?_, ?_, usage⟩
  · intro reply inside
    obtain ⟨ending, ends⟩ := Option.isSome_iff_exists.mp (ended reply inside)
    have asked : reply.prompt.requestId ∈
        (accepted history).map PromptDispatch.requestId :=
      requests.mem_iff.mpr (List.mem_map.mpr ⟨reply, inside, rfl⟩)
    have own : framesFor reply.prompt.requestId (replies.flatMap Reply.frames) =
        reply.frames :=
      @framesFor_groups _ _ _ _ (fun reply => reply.prompt.requestId)
        (fun _ _ => frameId_frames)
        (requests.nodup_iff.mp (List.Nodup.of_append_left distinct)) inside
    refine ⟨ending, ends, ?_⟩
    rw [framesFor_interleaved sent, own]
    exact framesFor_groups_other modelFileMissing_named (apart asked)
  · intro prompt member
    have named := List.mem_map_of_mem (f := PromptDispatch.requestId) member
    rw [framesFor_interleaved sent.symm,
      framesFor_groups modelFileMissing_named
        (List.Nodup.of_append_right distinct) member]
    apply framesFor_groups_other fun _ _ => frameId_frames
    intro answered
    exact apart (requests.mem_iff.mpr answered) named

variable {frames : List Message}

theorem bufferedLoop_frames (ended : reply.ending = some ending)
    (whole : framesFor reply.prompt.requestId frames = reply.frames) :
    bufferedLoop "" (answers reply.prompt.requestId frames) =
      some (replyExit reply ending) := by
  rw [← answers_framesFor, whole]
  exact bufferedLoop_reply ended

theorem bufferedLoop_refused
    (whole : framesFor prompt.requestId frames = [modelFileMissing prompt]) :
    bufferedLoop "" (answers prompt.requestId frames) =
      some (refusedExit prompt) := by
  have said : answerTo prompt.requestId (modelFileMissing prompt) =
      some (.error _) := answerTo_own rfl
  rw [← answers_framesFor, whole, answers_singleton, said]
  rfl

/-- When the Windows backend has finished, each accepted prompt has one reply,
and its handler makes of the node's frames the text of all pieces and their
number, or why it failed; the node's counters add up to the same numbers. -/
theorem windows_answers (run : (backend limitMb).Run history final)
    (finished : ∀ task ∈ final.tasks, task.phase = .finished)
    (distinct : ((accepted history ++ refused history).map
      PromptDispatch.requestId).Nodup) :
    ∃ replies : List Reply,
      (accepted history).Perm (replies.map Reply.prompt) ∧
      (∀ reply ∈ replies, ∃ ending, reply.ending = some ending ∧
        framesFor reply.prompt.requestId final.shared.sent = reply.frames ∧
        bufferedLoop "" (answers reply.prompt.requestId final.shared.sent) =
          some (replyExit reply ending)) ∧
      (∀ prompt ∈ refused history,
        bufferedLoop "" (answers prompt.requestId final.shared.sent) =
          some (refusedExit prompt)) ∧
      ∀ model, final.shared.usageOf model = counted replies model := by
  obtain ⟨replies, prompts, answered, missing, usage⟩ :=
    framesFor_sent run finished distinct
  refine ⟨replies, prompts, ?_, ?_, usage⟩
  · intro reply inside
    obtain ⟨ending, ends, whole⟩ := answered reply inside
    exact ⟨ending, ends, whole, bufferedLoop_frames ends whole⟩
  · intro prompt member
    exact bufferedLoop_refused (missing prompt member)

theorem windows_answers_finished :
    ∃ history final, (backend 10).Run history final ∧
      (accepted history).length = 2 ∧ (refused history).length = 1 ∧
      ∃ replies : List Reply,
        (accepted history).Perm (replies.map Reply.prompt) ∧
        ∀ reply ∈ replies, ∃ ending,
          bufferedLoop "" (answers reply.prompt.requestId final.shared.sent) =
            some (replyExit reply ending) := by
  obtain ⟨history, final, run, observed⟩ := (backend 10).exists_run_of_trace
    WindowsNode.finishedEvents (fun outcome => decide (
      (∀ task ∈ outcome.2.tasks, task.phase = .finished) ∧
      ((accepted outcome.1 ++ refused outcome.1).map
        PromptDispatch.requestId).Nodup ∧
      (accepted outcome.1).length = 2 ∧ (refused outcome.1).length = 1))
    (by decide +kernel)
  obtain ⟨finished, distinct, two, one⟩ := of_decide_eq_true observed
  obtain ⟨replies, prompts, answered, -, -⟩ :=
    windows_answers run finished distinct
  refine ⟨history, final, run, two, one, replies, prompts, ?_⟩
  intro reply member
  obtain ⟨ending, -, -, loops⟩ := answered reply member
  exact ⟨ending, loops⟩

end JwSwarm.Swarm
