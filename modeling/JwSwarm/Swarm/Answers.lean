import JwSwarm.Swarm.Delivery

namespace JwSwarm.Swarm

open Data Proto Transition Machine FleetManager LinuxNode

/-! What a client gets in the end: the frames of one request are chunks and at
most one terminal frame, since its prompt reaches the backend at most once. -/

variable {app : AppState} {history : History Network NetworkEvent}
variable {final : Network} {id : RequestId} {frames : List Message}
variable {chunks : List TokenChunk} {call : ChatCall}

/-- Chunks with increasing indices, and after them at most one terminal
frame. -/
def Orderly (id : RequestId) (frames : List Message) : Prop :=
  ChunksOnly (fun _ => True) (framesFor id frames) ∨ Answered id frames

section Backend

variable {past : History BackendState BackendEvent}
variable {before after : BackendState} {event : BackendEvent}
variable {ids : List RequestId}

private theorem Orderly.of_nil (silent : framesFor id frames = []) :
    Orderly id frames := by
  left
  rw [silent]
  exact .nil

theorem Orderly.of_foreign {frame : Message} {other : RequestId}
    (orderly : Orderly id frames) (own : frameId frame = some other)
    (different : id ≠ other) : Orderly id (frames ++ [frame]) := by
  rcases orderly with streaming | answered
  · left
    rwa [framesFor_foreign own different]
  · exact .inr ((answered_foreign own different).mpr answered)

theorem Orderly.step (tracked : Tracked ids before)
    (orderly : Orderly id before.frames)
    (taken : stepBackend before event = some after)
    (fresh : ∀ id, event.dispatched = some id → id ∉ ids) :
    Orderly id after.frames := by
  cases step_effect taken with
  | quiet undispatched kept pendingSame framesSame => rwa [framesSame]
  | queued other dispatched kept pendingNow framesSame => rwa [framesSame]
  | dropped other dispatched lost same => rwa [same]
  | ended undispatched kept pendingNow framesSame => rwa [framesSame]
  | refused other message dispatched kept pendingSame framesNow phase =>
      rw [framesNow]
      by_cases same : id = other
      · subst same
        have silent := tracked.foreign id (fresh id dispatched)
        right
        apply @answered_concat id (fun _ => True)
        · rw [silent]
          exact .nil
        · rfl
        · rfl
      · exact orderly.of_foreign rfl same
  | streamed chunk rest undispatched kept current pendingSame framesNow later
      passed alive =>
      rw [framesNow]
      by_cases same : id = chunk.requestId
      · subst same
        left
        rw [framesFor_own rfl]
        have streaming := (tracked.current _ rest current).concat later passed
        exact streaming.mono fun _ _ => trivial
      · exact orderly.of_foreign rfl same
  | answered other rest last undispatched kept current pendingNow framesNow own
      terminal alive =>
      rw [framesNow]
      by_cases same : id = other
      · subst same
        exact .inr (answered_concat (tracked.current id rest current) own
          terminal)
      · exact orderly.of_foreign own same

theorem orderly_run {final : BackendState} (run : backend.Run past final)
    (distinct : (handed past).Nodup) : Orderly id final.frames := by
  induction run with
  | start => exact .of_nil rfl
  | next run taken ih =>
      rw [handed_concat] at distinct
      have earlier := List.Nodup.of_append_left distinct
      exact (ih earlier).step (tracked_run run earlier).1 taken
        (not_mem_of_distinct distinct)

end Backend

/-- In every run of the network the node's backend gets each prompt at most
once, and makes for it chunks with increasing indices and after them at most
one terminal frame. -/
theorem served_once (run : (network app).Run history final) :
    backend.Run (backendHistory history) final.backend ∧
      (handed (backendHistory history)).Nodup ∧
      ∀ id, Orderly id final.backend.frames := by
  have traced := traced_run run
  exact ⟨traced.backend, traced.distinct,
    fun id => orderly_run traced.backend traced.distinct⟩

private theorem answerTo_eq_none {msg : Message}
    (other : frameId msg ≠ some id) : answerTo id msg = none := by
  cases msg with
  | tokenChunk chunk =>
      exact if_neg fun same => other (congrArg some same)
  | done done => exact if_neg fun same => other (congrArg some same)
  | error error => exact if_neg fun same => other (congrArg some same)
  | _ => rfl

theorem answers_framesFor :
    answers id (framesFor id frames) = answers id frames := by
  induction frames with
  | nil => rfl
  | cons frame rest ih =>
      rw [answers_cons]
      by_cases own : frameId frame = some id
      · rw [framesFor, List.filter_cons_of_pos (by simpa using own),
          answers_cons, ← framesFor, ih]
      · rw [framesFor, List.filter_cons_of_neg (by simpa using own),
          ← framesFor, ih, answerTo_eq_none own]
        rfl

theorem answers_chunks (own : ∀ chunk ∈ chunks, chunk.requestId = id) :
    answers id (chunks.map .tokenChunk) = chunks.map .chunk := by
  induction chunks with
  | nil => rfl
  | cons chunk rest ih =>
      obtain ⟨here, others⟩ := List.forall_mem_cons.mp own
      have said : answerTo id (.tokenChunk chunk) = some (.chunk chunk) :=
        if_pos here
      rw [List.map_cons, answers_cons, said, ih others]
      rfl

theorem bufferedLoop_chunks {content : String} {events : List RequestEvent} :
    bufferedLoop content (chunks.map .chunk ++ events) =
      bufferedLoop (content ++ String.join (chunks.map TokenChunk.delta))
        events := by
  induction chunks generalizing content with
  | nil => simp [String.join]
  | cons chunk rest ih =>
      rw [List.map_cons, List.cons_append, bufferedLoop, ih, List.map_cons,
        String.join_cons, String.append_assoc]

/-- The client's response is made of all that the node has made for it. -/
structure InFull (id : RequestId) (call : ChatCall) (frames : List Message)
    (response : Response) (chunks : List TokenChunk) (last : Message) :
    Prop where
  frames : framesFor id frames = chunks.map .tokenChunk ++ [last]
  response :
    (∃ done, last = .done done ∧ response = .completion id call.created
      call.model (String.join (chunks.map TokenChunk.delta)) done.usage) ∨
    (∃ error, last = .error error ∧ response = .error 502 error.message)

private theorem inFull_of_exit (orderly : Orderly id frames)
    {exit : BufferedExit}
    (exits : bufferedLoop "" (answers id frames) = some exit) :
    ∃ chunks last,
      InFull id call frames (respond id call exit) chunks last := by
  have own (frame : Message) (member : frame ∈ framesFor id frames) :
      frameId frame = some id := eq_of_beq (List.mem_filter.mp member).2
  rw [← answers_framesFor] at exits
  rcases orderly with ⟨chunks, whole, -, -⟩ |
    ⟨streamed, last, whole, ⟨chunks, rfl, -, -⟩, terminal⟩
  · have named (chunk : TokenChunk) (member : chunk ∈ chunks) :
        chunk.requestId = id := by
      apply Option.some.inj
      apply own (.tokenChunk chunk)
      rw [whole]
      exact List.mem_map_of_mem member
    rw [whole, answers_chunks named, ← List.append_nil (chunks.map _),
      bufferedLoop_chunks] at exits
    cases exits
  · have named (chunk : TokenChunk) (member : chunk ∈ chunks) :
        chunk.requestId = id := by
      apply Option.some.inj
      apply own (.tokenChunk chunk)
      rw [whole]
      exact List.mem_append_left _ (List.mem_map_of_mem member)
    have here : frameId last = some id := by
      apply own
      rw [whole]
      exact List.mem_append_right _ List.mem_cons_self
    rw [whole, answers_append, answers_chunks named, bufferedLoop_chunks,
      String.empty_append, answers_singleton] at exits
    refine ⟨chunks, last, whole, ?_⟩
    cases last with
    | done done =>
        have said : answerTo id (.done done) = some (.done done) :=
          if_pos (Option.some.inj here)
        rw [said] at exits
        obtain rfl := Option.some.inj exits
        exact .inl ⟨done, rfl, rfl⟩
    | error error =>
        have said : answerTo id (.error error) = some (.error error) :=
          if_pos (Option.some.inj here)
        rw [said] at exits
        obtain rfl := Option.some.inj exits
        exact .inr ⟨error, rfl, rfl⟩
    | _ => cases terminal

/-- Where no frame of a request is lost or overtaken, its handler receives a
beginning of what the node has made for it, and the response made of that holds
all of the node's text, and its usage or its error. -/
theorem answered_in_full (run : (network app).Run history final)
    (passed : Guarded (fun _ state event => passesOn id state event = true)
      history) (found : final.fleet.calls.lookup id = some call) :
    call.received <+: final.generated id ∧
      ∀ response, call.phase = .returned response → call.received ≠ [] →
        ∃ chunks last,
          InFull id call final.backend.frames response chunks last := by
  obtain ⟨received, answered⟩ := answer_relayed run passed found
  refine ⟨received, fun response returned heard => ?_⟩
  have traced := traced_run run
  obtain ⟨exit, exits, rfl⟩ := answered response returned heard
  exact inFull_of_exit (orderly_run traced.backend traced.distinct) exits

/-- The node connects and sends one message after the other. -/
private def announceEvents (nodeId : NodeId) : List NetworkEvent :=
  .connect :: [Message.register (plainRegister nodeId),
    .modelStatus ⟨nodeId, ["m"]⟩,
    .heartbeat ⟨nodeId, idleMetrics, .awake⟩].flatMap fun msg =>
      [.control msg, .write true, .arrive 0]

/-- The Fleet Manager sends the prompt of the request `r` to the node, which
makes one piece of text for it. -/
def promptEvents (nodeId : NodeId) : List NetworkEvent :=
  [.fleet (.request "r" (.object [("model", .string "m")])
      [readyNode nodeId 0]),
    .fleet (.lookupSender "r"), .fleet (.registerRequest "r"),
    .fleet (.send "r"), .backend (.init true), .push 0, .handle 0 true true,
    .backend .recv, .backend (.prepare (.ok 2)),
    .backend (.turn (.token (some "hi") none)), .write true, .arrive 0,
    .backend (.turn .endOfGeneration), .backend (.finish (.ok ())),
    .write true, .arrive 0, .fleet (.recv "r"), .fleet (.recv "r")]

def completionText (call : ChatCall) : Option String :=
  match call.phase with
  | .returned (.completion _ _ _ content _) => some content
  | _ => none

theorem served_once_answered :
    ∃ history final, (network bareApp).Run history final ∧
      (final.generated "r").length = 2 ∧
      (handed (backendHistory history)).Nodup ∧
      ∀ id, Orderly id final.backend.frames := by
  obtain ⟨history, final, run, observed⟩ :=
    (network bareApp).exists_run_of_trace
      (announceEvents "node" ++ promptEvents "node")
      (fun outcome => (outcome.2.generated "r").length = 2)
      (by decide +kernel)
  exact ⟨history, final, run, of_decide_eq_true observed,
    (served_once run).2⟩

/-- The connection breaks while it carries the first piece, and the second one
is lost with it. -/
theorem accounted_subperm_broken :
    ∃ history final, (network bareApp).Run history final ∧
      (final.generated "r").length = 2 ∧ (final.accounted "r").length = 1 ∧
      (final.accounted "r").Subperm (final.generated "r") := by
  obtain ⟨history, final, run, observed⟩ :=
    (network bareApp).exists_run_of_trace
      (announceEvents "node" ++ (promptEvents "node").take 9 ++
        [.drained, .backend (.turn (.token (some "hi") none)), .write true,
          .backend (.turn (.token (some "ho") none)), .write false,
          .fleet (.receive 0 .ended), .connect])
      (fun outcome =>
        admits (fun _ => unspoofed "r") [] outcome.1 = true ∧
        (outcome.2.generated "r").length = 2 ∧
        (outcome.2.accounted "r").length = 1)
      (by decide +kernel)
  obtain ⟨own, made, left⟩ := of_decide_eq_true observed
  exact ⟨history, final, run, made, left,
    accounted_subperm run (guarded_of_admits own)⟩

theorem answered_in_full_buffered :
    ∃ history final call response chunks last,
      (network bareApp).Run history final ∧
      final.fleet.calls.lookup "r" = some call ∧
      call.phase = .returned response ∧ completionText call = some "hi" ∧
      InFull "r" call final.backend.frames response chunks last := by
  obtain ⟨history, final, run, observed⟩ :=
    (network bareApp).exists_run_of_trace
      (announceEvents "node" ++ promptEvents "node")
      (fun outcome => admits (fun _ => passesOn "r") [] outcome.1 = true ∧
        (outcome.2.fleet.calls.lookup "r").any fun call =>
          completionText call = some "hi" ∧ call.received ≠ [])
      (by decide +kernel)
  obtain ⟨admitted, observed⟩ := of_decide_eq_true observed
  obtain ⟨call, found, observed⟩ := (Option.any_eq_true _ _).mp observed
  obtain ⟨completed, heard⟩ := of_decide_eq_true observed
  obtain ⟨-, answered⟩ :=
    answered_in_full run (guarded_of_admits admitted) found
  have phase := completed
  unfold completionText at phase
  split at phase
  · next returned =>
      obtain ⟨chunks, last, whole⟩ := answered _ returned heard
      exact ⟨history, final, call, _, chunks, last, run, found, returned,
        completed, whole⟩
  · cases phase

end JwSwarm.Swarm
