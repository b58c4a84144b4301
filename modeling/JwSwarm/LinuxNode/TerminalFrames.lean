import Mathlib.Data.List.Nodup
import JwSwarm.LinuxNode.Worker

namespace JwSwarm.LinuxNode

open Proto Transition Machine

/-! Every dispatched prompt ends with one terminal frame, unless its job or its
error frame gets lost. -/

def frameId : Message → Option RequestId
  | .tokenChunk chunk => some chunk.requestId
  | .done done => some done.requestId
  | .error error => some error.requestId
  | _ => none

def isTerminal : Message → Bool
  | .done _ => true
  | .error _ => true
  | _ => false

def framesFor (id : RequestId) (frames : List Message) : List Message :=
  frames.filter fun frame => frameId frame == some id

/-- Chunks with strictly increasing indices that satisfy `passed`. -/
def ChunksOnly (passed : ℕ → Prop) (frames : List Message) : Prop :=
  ∃ chunks : List TokenChunk, frames = chunks.map .tokenChunk ∧
    (chunks.map fun chunk => chunk.index.toNat).Pairwise (· < ·) ∧
    ∀ chunk ∈ chunks, passed chunk.index.toNat

/-- Chunks with strictly increasing indices, then one `Done` or `Error`. -/
def Answered (id : RequestId) (frames : List Message) : Prop :=
  ∃ chunks last, framesFor id frames = chunks ++ [last] ∧
    ChunksOnly (fun _ => True) chunks ∧ isTerminal last = true

def WorkerPhase.job : WorkerPhase → Option PromptDispatch
  | .preparing job => some job
  | .generating job _ _ => some job
  | .finishing job _ _ => some job
  | .failing job _ => some job
  | _ => none

/-- The indices that the chunks of the current request may have. -/
def WorkerPhase.passed : WorkerPhase → ℕ → Prop
  | .generating _ _ index, number => number < index
  | .finishing _ _ _, _ => True
  | .failing _ _, _ => True
  | _, _ => False

def pending (state : BackendState) : List RequestId :=
  (state.phase.job.toList ++ state.jobs).map PromptDispatch.requestId

def BackendEvent.dispatched : BackendEvent → Option RequestId
  | .dispatch prompt _ _ => some prompt.requestId
  | _ => none

def handed (history : History BackendState BackendEvent) : List RequestId :=
  history.filterMap fun taken => taken.2.dispatched

/-- The worker waits with nothing to do, or has ended. -/
def isResting (state : BackendState) : Bool :=
  match state.phase with
  | .receiving => state.jobs.isEmpty
  | .exited => true
  | _ => false

/-- No job is queued when the initialisation fails, and every error frame can
be serialised. -/
def keepsFrames (state : BackendState) : BackendEvent → Bool
  | .dispatch _ ready serialises =>
      serialises || (ready && match state.phase with
        | .exited => false
        | _ => true)
  | .init succeeds => succeeds || state.jobs.isEmpty
  | .report serialises => serialises
  | _ => true

inductive Effect (before : BackendState) (event : BackendEvent)
    (after : BackendState) : Prop where
  | quiet (undispatched : event.dispatched = none)
      (kept : keepsFrames before event = true)
      (pendingSame : pending after = pending before)
      (framesSame : after.frames = before.frames)
      (passed : ∀ index, before.phase.passed index → after.phase.passed index)
      (alive : after.phase ≠ .exited)
  | queued (id : RequestId) (dispatched : event.dispatched = some id)
      (kept : keepsFrames before event = true)
      (pendingNow : pending after = pending before ++ [id])
      (framesSame : after.frames = before.frames)
      (phase : after.phase = before.phase) (alive : after.phase ≠ .exited)
  | refused (id : RequestId) (message : String)
      (dispatched : event.dispatched = some id)
      (kept : keepsFrames before event = true)
      (pendingSame : pending after = pending before)
      (framesNow : after.frames = before.frames ++ [.error ⟨id, message⟩])
      (phase : after.phase = before.phase)
  | dropped (id : RequestId) (dispatched : event.dispatched = some id)
      (lost : keepsFrames before event = false)
      (same : after = before)
  | streamed (chunk : TokenChunk) (rest : List RequestId)
      (undispatched : event.dispatched = none)
      (kept : keepsFrames before event = true)
      (current : pending before = chunk.requestId :: rest)
      (pendingSame : pending after = pending before)
      (framesNow : after.frames = before.frames ++ [.tokenChunk chunk])
      (fresh : ∀ index, before.phase.passed index →
        index < chunk.index.toNat ∧ after.phase.passed index)
      (passed : after.phase.passed chunk.index.toNat)
      (alive : after.phase ≠ .exited)
  | answered (id : RequestId) (rest : List RequestId) (last : Message)
      (undispatched : event.dispatched = none)
      (kept : keepsFrames before event = true)
      (current : pending before = id :: rest)
      (pendingNow : pending after = rest)
      (framesNow : after.frames = before.frames ++ [last])
      (own : frameId last = some id) (terminal : isTerminal last = true)
      (alive : after.phase ≠ .exited)
  | ended (undispatched : event.dispatched = none)
      (kept : keepsFrames before event = true ↔ pending before = [])
      (pendingNow : pending after = [])
      (framesSame : after.frames = before.frames)

variable {history : History BackendState BackendEvent}
variable {before after final state : BackendState} {event : BackendEvent}
variable {id other : RequestId} {ids : List RequestId}

private theorem effect_dispatch {prompt : PromptDispatch}
    {ready serialises : Bool} :
    Effect before (.dispatch prompt ready serialises)
      (stepDispatch before prompt ready serialises) := by
  have refused (message : String) (fails : ready = false ∨
      before.phase = .exited) : Effect before (.dispatch prompt ready serialises)
        (reportError before prompt.requestId message serialises) := by
    cases serialises with
    | true => exact .refused _ message rfl rfl rfl rfl rfl
    | false =>
        refine .dropped _ rfl ?_ rfl
        rcases fails with rfl | exited
        · rfl
        · simp [keepsFrames, exited]
  cases ready with
  | false => exact refused _ (.inl rfl)
  | true =>
      unfold stepDispatch
      simp only [if_true]
      split
      · next exited => exact refused _ (.inr exited)
      · next alive =>
          refine .queued prompt.requestId rfl ?_ ?_ rfl rfl alive
          · cases phase : before.phase with
            | exited => exact absurd phase alive
            | _ => simp [keepsFrames, phase]
          · simp [pending]

section Turns

variable {job : PromptDispatch} {promptTokens index : ℕ} {outcome : Turn}
variable {next : WorkerPhase}

theorem pending_generating
    (phase : before.phase = .generating job promptTokens index) :
    pending before =
      job.requestId :: before.jobs.map PromptDispatch.requestId := by
  simp [pending, phase, WorkerPhase.job]

theorem effect_silent
    (phase : before.phase = .generating job promptTokens index)
    (same : next.job = some job)
    (passed : ∀ number, number < index → next.passed number) :
    Effect before (.turn outcome) { before with phase := next } := by
  refine .quiet rfl rfl ?_ rfl (fun number earlier => ?_) ?_
  · rw [pending_generating phase, pending, same]
    rfl
  · rw [phase] at earlier
    exact passed number earlier
  · rintro rfl
    cases same

/-- The chunk goes out before its token is decoded. -/
theorem effect_token {piece : Option String}
    (phase : before.phase = .generating job promptTokens index)
    (less : index < extractMaxTokens job.payload)
    (same : next.job = some job)
    (passed : ∀ number, number ≤ index → next.passed number) :
    Effect before (.turn outcome)
      { sendPiece before job index piece with phase := next } := by
  have bound := extractMaxTokens_le job.payload
  have here : (UInt32.ofNat index).toNat = index := by
    rw [UInt32.toNat_ofNat']
    exact Nat.mod_eq_of_lt (by omega)
  have silent : Effect before (.turn outcome) { before with phase := next } :=
    effect_silent phase same fun number less => passed number less.le
  unfold sendPiece
  split
  · split
    · exact silent
    · refine .streamed _ _ rfl rfl (pending_generating phase) ?_ rfl
        (fun number earlier => ?_) (passed _ here.le) ?_
      · rw [pending_generating phase, pending]
        simp only [BackendState.send, same]
        rfl
      · rw [phase] at earlier
        exact ⟨here.symm ▸ earlier, passed number (Nat.le_of_lt earlier)⟩
      · rintro rfl
        cases same
  · exact silent

private theorem effect_turn
    (phase : before.phase = .generating job promptTokens index) :
    Effect before (.turn outcome)
      (stepTurn before job promptTokens index outcome) := by
  unfold stepTurn
  split
  · next less =>
      cases outcome with
      | endOfGeneration => exact effect_silent phase rfl fun _ _ => trivial
      | unserialised cause => exact effect_silent phase rfl fun _ _ => trivial
      | token piece failure =>
          cases failure with
          | none =>
              exact effect_token phase less rfl fun _ => Nat.lt_succ_of_le
          | some error =>
              exact effect_token phase less rfl fun _ _ => trivial
  · exact effect_silent phase rfl fun _ _ => trivial

end Turns

theorem step_effect (taken : stepBackend before event = some after) :
    Effect before event after := by
  cases event with
  | dispatch prompt ready serialises =>
      obtain rfl := Option.some.inj taken
      exact effect_dispatch
  | init succeeds =>
      simp only [stepBackend] at taken
      split at taken
      · next phase =>
          obtain rfl := Option.some.inj taken
          cases succeeds with
          | true =>
              refine .quiet rfl rfl ?_ rfl (fun number earlier => ?_) nofun
              · simp [pending, phase, WorkerPhase.job]
              · rw [phase] at earlier
                exact earlier
          | false =>
              refine .ended rfl ?_ rfl rfl
              simp [keepsFrames, pending, phase, WorkerPhase.job]
      · cases taken
  | recv =>
      simp only [stepBackend] at taken
      split at taken
      · next job jobs phase queue =>
          obtain rfl := Option.some.inj taken
          refine .quiet rfl rfl ?_ rfl (fun number earlier => ?_) nofun
          · simp [pending, phase, queue, WorkerPhase.job]
          · rw [phase] at earlier
            exact earlier
      · cases taken
  | prepare outcome =>
      simp only [stepBackend] at taken
      split at taken
      · next job phase =>
          obtain rfl := Option.some.inj taken
          refine .quiet rfl rfl ?_ rfl (fun number earlier => ?_) ?_
          · cases outcome <;> simp [pending, phase, WorkerPhase.job]
          · rw [phase] at earlier
            exact earlier.elim
          · cases outcome <;> exact nofun
      · cases taken
  | turn outcome =>
      simp only [stepBackend] at taken
      split at taken
      · next job promptTokens index phase =>
          obtain rfl := Option.some.inj taken
          exact effect_turn phase
      · cases taken
  | finish outcome =>
      simp only [stepBackend] at taken
      split at taken
      · next job promptTokens completionTokens _ phase =>
          obtain rfl := Option.some.inj taken
          refine .answered job.requestId
            (before.jobs.map PromptDispatch.requestId) _ rfl rfl ?_ rfl rfl
            rfl rfl nofun
          simp [pending, phase, WorkerPhase.job]
      · next job promptTokens completionTokens phase =>
          obtain rfl := Option.some.inj taken
          refine .quiet rfl rfl ?_ rfl (fun _ _ => trivial) nofun
          simp [pending, phase, WorkerPhase.job]
      · cases taken
  | report serialises =>
      simp only [stepBackend] at taken
      split at taken
      · next job error phase =>
          have current : pending before =
              job.requestId :: before.jobs.map PromptDispatch.requestId := by
            simp [pending, phase, WorkerPhase.job]
          cases serialises with
          | true =>
              obtain rfl := Option.some.inj taken
              exact .answered job.requestId _ _ rfl rfl current rfl rfl rfl rfl
                nofun
          | false =>
              obtain rfl := Option.some.inj taken
              refine .ended rfl ?_ rfl rfl
              simp [keepsFrames, current]
      · cases taken

theorem framesFor_concat {frames : List Message} {frame : Message} :
    framesFor id (frames ++ [frame]) =
      framesFor id frames ++
        if frameId frame = some id then [frame] else [] := by
  rw [framesFor, framesFor, List.filter_append]
  congr 1
  by_cases own : frameId frame = some id <;> simp [own]

theorem framesFor_foreign {frames : List Message} {frame : Message}
    (own : frameId frame = some other) (different : id ≠ other) :
    framesFor id (frames ++ [frame]) = framesFor id frames := by
  rw [framesFor_concat, if_neg, List.append_nil]
  rw [own]
  exact fun same => different (Option.some.inj same).symm

theorem framesFor_own {frames : List Message} {frame : Message}
    (own : frameId frame = some id) :
    framesFor id (frames ++ [frame]) = framesFor id frames ++ [frame] := by
  rw [framesFor_concat, if_pos own]

theorem ChunksOnly.nil {passed : ℕ → Prop} : ChunksOnly passed [] :=
  ⟨[], rfl, List.Pairwise.nil, fun _ member => absurd member List.not_mem_nil⟩

theorem ChunksOnly.mono {passed later : ℕ → Prop} {frames : List Message}
    (chunksOnly : ChunksOnly passed frames)
    (weaker : ∀ index, passed index → later index) :
    ChunksOnly later frames := by
  obtain ⟨chunks, whole, increasing, each⟩ := chunksOnly
  exact ⟨chunks, whole, increasing, fun chunk member =>
    weaker _ (each chunk member)⟩

theorem ChunksOnly.concat {passed later : ℕ → Prop} {frames : List Message}
    {chunk : TokenChunk} (chunksOnly : ChunksOnly passed frames)
    (fresh : ∀ index, passed index →
      index < chunk.index.toNat ∧ later index)
    (here : later chunk.index.toNat) :
    ChunksOnly later (frames ++ [.tokenChunk chunk]) := by
  obtain ⟨chunks, rfl, increasing, each⟩ := chunksOnly
  refine ⟨chunks ++ [chunk], by simp, ?_, fun other member => ?_⟩
  · rw [List.map_append, List.pairwise_append]
    refine ⟨increasing, List.pairwise_singleton _ _,
      fun index inside last same => ?_⟩
    obtain ⟨earlier, member, rfl⟩ := List.mem_map.mp inside
    rw [List.map_singleton, List.mem_singleton] at same
    rw [same]
    exact (fresh _ (each earlier member)).1
  · rcases List.mem_append.mp member with member | member
    · exact (fresh _ (each other member)).2
    · rw [List.mem_singleton] at member
      rw [member]
      exact here

theorem answered_concat {passed : ℕ → Prop} {frames : List Message}
    {last : Message} (chunksOnly : ChunksOnly passed (framesFor id frames))
    (own : frameId last = some id) (terminal : isTerminal last = true) :
    Answered id (frames ++ [last]) :=
  ⟨framesFor id frames, last, framesFor_own own,
    chunksOnly.mono fun _ _ => trivial, terminal⟩

theorem not_answered_nil {frames : List Message}
    (none : framesFor id frames = []) : ¬ Answered id frames := by
  rintro ⟨chunks, last, whole, -⟩
  rw [none] at whole
  exact List.append_ne_nil_of_right_ne_nil _ (List.cons_ne_nil _ _) whole.symm

private theorem not_answered_chunks {passed : ℕ → Prop} {frames : List Message}
    (chunksOnly : ChunksOnly passed (framesFor id frames)) :
    ¬ Answered id frames := by
  rintro ⟨chunks, last, whole, -, terminal⟩
  obtain ⟨streamed, same, -⟩ := chunksOnly
  have member : last ∈ framesFor id frames := by
    rw [whole]
    exact List.mem_append_right _ List.mem_cons_self
  rw [same] at member
  obtain ⟨chunk, -, rfl⟩ := List.mem_map.mp member
  cases terminal

/-! What is known of every run with distinct requests: `ids` are those that
have been handed to `dispatch`. -/

structure Tracked (ids : List RequestId) (state : BackendState) : Prop where
  nodup : (pending state).Nodup
  known : ∀ id ∈ pending state, id ∈ ids
  foreign : ∀ id, id ∉ ids → framesFor id state.frames = []
  current : ∀ id rest, pending state = id :: rest →
    ChunksOnly state.phase.passed (framesFor id state.frames)
  waiting : ∀ id ∈ (pending state).tail, framesFor id state.frames = []
  closed : state.phase = .exited → pending state = []

theorem Tracked.queued (tracked : Tracked ids before) (fresh : id ∉ ids)
    (pendingNow : pending after = pending before ++ [id])
    (framesSame : after.frames = before.frames)
    (phase : after.phase = before.phase) (alive : after.phase ≠ .exited) :
    Tracked (ids ++ [id]) after where
  nodup := by
    rw [pendingNow, ← List.concat_eq_append]
    exact tracked.nodup.concat fun member => fresh (tracked.known id member)
  known := by
    intro other member
    rw [pendingNow] at member
    exact (List.mem_append.mp member).elim
      (fun earlier => List.mem_append_left _ (tracked.known other earlier))
      (List.mem_append_right _)
  foreign := by
    intro other outside
    rw [framesSame]
    exact tracked.foreign other fun member =>
      outside (List.mem_append_left _ member)
  current := by
    intro other rest whole
    rw [framesSame, phase]
    rw [pendingNow] at whole
    cases before' : pending before with
    | nil =>
        rw [before'] at whole
        obtain ⟨rfl, -⟩ := List.cons.inj whole
        rw [tracked.foreign _ fresh]
        exact .nil
    | cons head tail =>
        rw [before'] at whole
        obtain ⟨rfl, -⟩ := List.cons.inj whole
        exact tracked.current _ tail before'
  waiting := by
    intro other member
    rw [framesSame]
    rw [pendingNow] at member
    cases before' : pending before with
    | nil => simp [before'] at member
    | cons head tail =>
        rw [before'] at member
        rcases List.mem_append.mp member with earlier | here
        · exact tracked.waiting other (by rwa [before'])
        · rw [List.mem_singleton] at here
          rw [here]
          exact tracked.foreign _ fresh
  closed := fun exited => absurd exited alive

theorem Tracked.refused {message : String} (tracked : Tracked ids before)
    (fresh : id ∉ ids) (pendingSame : pending after = pending before)
    (framesNow : after.frames = before.frames ++ [.error ⟨id, message⟩])
    (phase : after.phase = before.phase) : Tracked (ids ++ [id]) after := by
  have kept (other : RequestId) (different : other ≠ id) :
      framesFor other after.frames = framesFor other before.frames := by
    rw [framesNow]
    exact framesFor_foreign rfl different
  have pendingKept (other : RequestId) (member : other ∈ pending before) :
      framesFor other after.frames = framesFor other before.frames := by
    apply kept
    rintro rfl
    exact fresh (tracked.known _ member)
  refine ⟨pendingSame ▸ tracked.nodup, fun other member => ?_,
    fun other outside => ?_, fun other rest whole => ?_,
    fun other member => ?_, ?_⟩
  · rw [pendingSame] at member
    exact List.mem_append_left _ (tracked.known other member)
  · rw [List.mem_append, List.mem_singleton, not_or] at outside
    rw [kept other outside.2]
    exact tracked.foreign other outside.1
  · rw [pendingSame] at whole
    rw [phase, pendingKept other (by rw [whole]; exact List.mem_cons_self)]
    exact tracked.current other rest whole
  · rw [pendingSame] at member
    rw [pendingKept other (List.mem_of_mem_tail member)]
    exact tracked.waiting other member
  · rw [phase, pendingSame]
    exact tracked.closed

theorem Tracked.streamed {chunk : TokenChunk} {rest : List RequestId}
    (tracked : Tracked ids before)
    (current : pending before = chunk.requestId :: rest)
    (pendingSame : pending after = pending before)
    (framesNow : after.frames = before.frames ++ [.tokenChunk chunk])
    (fresh : ∀ index, before.phase.passed index →
      index < chunk.index.toNat ∧ after.phase.passed index)
    (passed : after.phase.passed chunk.index.toNat)
    (alive : after.phase ≠ .exited) : Tracked ids after := by
  have kept (other : RequestId) (different : other ≠ chunk.requestId) :
      framesFor other after.frames = framesFor other before.frames := by
    rw [framesNow]
    exact framesFor_foreign rfl different
  have head : chunk.requestId ∈ pending before := by
    rw [current]
    exact List.mem_cons_self
  refine ⟨pendingSame ▸ tracked.nodup, pendingSame ▸ tracked.known,
    fun other outside => ?_, fun other later whole => ?_,
    fun other member => ?_, fun exited => absurd exited alive⟩
  · rw [kept other fun same => outside (same ▸ tracked.known _ head)]
    exact tracked.foreign other outside
  · rw [pendingSame, current] at whole
    obtain ⟨rfl, -⟩ := List.cons.inj whole
    rw [framesNow, framesFor_own rfl]
    exact (tracked.current _ rest current).concat fresh passed
  · rw [pendingSame] at member
    rw [kept other]
    · exact tracked.waiting other member
    · have nodup := tracked.nodup
      rw [current] at nodup member
      rintro rfl
      exact (List.nodup_cons.mp nodup).1 member

theorem Tracked.answered {rest : List RequestId} {last : Message}
    (tracked : Tracked ids before) (current : pending before = id :: rest)
    (pendingNow : pending after = rest)
    (framesNow : after.frames = before.frames ++ [last])
    (own : frameId last = some id) (alive : after.phase ≠ .exited) :
    Tracked ids after := by
  have nodup := tracked.nodup
  rw [current, List.nodup_cons] at nodup
  have waiting (other : RequestId) (member : other ∈ rest) :
      framesFor other after.frames = [] := by
    rw [framesNow, framesFor_foreign own (by rintro rfl; exact nodup.1 member)]
    apply tracked.waiting
    rw [current]
    exact member
  refine ⟨pendingNow ▸ nodup.2, fun other member => ?_,
    fun other outside => ?_, fun other later whole => ?_,
    fun other member => ?_, fun exited => absurd exited alive⟩
  · rw [pendingNow] at member
    apply tracked.known
    rw [current]
    exact List.mem_cons_of_mem _ member
  · rw [framesNow, framesFor_foreign own]
    · exact tracked.foreign other outside
    · rintro rfl
      apply outside
      apply tracked.known
      rw [current]
      exact List.mem_cons_self
  · rw [pendingNow] at whole
    rw [waiting other (by rw [whole]; exact List.mem_cons_self)]
    exact .nil
  · rw [pendingNow] at member
    exact waiting other (List.mem_of_mem_tail member)

private theorem tracked_step (tracked : Tracked ids before)
    (effect : Effect before event after)
    (fresh : ∀ id, event.dispatched = some id → id ∉ ids) :
    Tracked (ids ++ event.dispatched.toList) after := by
  cases effect with
  | quiet undispatched kept pendingSame framesSame passed alive =>
      rw [undispatched, Option.toList_none, List.append_nil]
      refine ⟨pendingSame ▸ tracked.nodup, pendingSame ▸ tracked.known,
        framesSame ▸ tracked.foreign, fun other rest whole => ?_, ?_,
        fun exited => absurd exited alive⟩
      · rw [framesSame]
        exact (tracked.current other rest (pendingSame ▸ whole)).mono passed
      · rw [pendingSame, framesSame]
        exact tracked.waiting
  | queued id dispatched kept pendingNow framesSame phase alive =>
      rw [dispatched]
      exact tracked.queued (fresh id dispatched) pendingNow framesSame phase
        alive
  | refused id message dispatched kept pendingSame framesNow phase =>
      rw [dispatched]
      exact tracked.refused (fresh id dispatched) pendingSame framesNow phase
  | dropped id dispatched lost same =>
      subst same
      refine ⟨tracked.nodup, fun other member => ?_, fun other outside => ?_,
        tracked.current, tracked.waiting, tracked.closed⟩
      · exact List.mem_append_left _ (tracked.known other member)
      · exact tracked.foreign other fun member =>
          outside (List.mem_append_left _ member)
  | streamed chunk rest undispatched kept current pendingSame framesNow later
      passed alive =>
      rw [undispatched, Option.toList_none, List.append_nil]
      exact tracked.streamed current pendingSame framesNow later passed alive
  | answered id rest last undispatched kept current pendingNow framesNow own
      terminal alive =>
      rw [undispatched, Option.toList_none, List.append_nil]
      exact tracked.answered current pendingNow framesNow own alive
  | ended undispatched kept pendingNow framesSame =>
      rw [undispatched, Option.toList_none, List.append_nil]
      refine ⟨pendingNow ▸ List.nodup_nil, fun other member => ?_,
        framesSame ▸ tracked.foreign, fun other rest whole => ?_,
        fun other member => ?_, fun _ => pendingNow⟩
      · rw [pendingNow] at member
        cases member
      · rw [pendingNow] at whole
        cases whole
      · rw [pendingNow] at member
        cases member

def Accounted (ids : List RequestId) (state : BackendState) : Prop :=
  ∀ id ∈ ids, id ∈ pending state ∨ Answered id state.frames

private theorem Tracked.not_answered (tracked : Tracked ids state)
    (member : id ∈ pending state) : ¬ Answered id state.frames := by
  cases whole : pending state with
  | nil =>
      rw [whole] at member
      cases member
  | cons head tail =>
      rw [whole] at member
      rcases List.mem_cons.mp member with rfl | member
      · exact not_answered_chunks (tracked.current _ tail whole)
      · apply not_answered_nil
        apply tracked.waiting
        rwa [whole]

theorem answered_foreign {frames : List Message} {frame : Message}
    (own : frameId frame = some other) (different : id ≠ other) :
    Answered id (frames ++ [frame]) ↔ Answered id frames := by
  rw [Answered, Answered, framesFor_foreign own different]

private theorem accounted_step (tracked : Tracked ids before)
    (effect : Effect before event after)
    (fresh : ∀ id, event.dispatched = some id → id ∉ ids) :
    Accounted (ids ++ event.dispatched.toList) after ↔
      Accounted ids before ∧ keepsFrames before event = true := by
  cases effect with
  | quiet undispatched kept pendingSame framesSame passed alive =>
      rw [undispatched, Option.toList_none, List.append_nil, Accounted,
        Accounted, pendingSame, framesSame]
      exact (and_iff_left kept).symm
  | queued id dispatched kept pendingNow framesSame phase alive =>
      rw [dispatched, Accounted, Accounted, pendingNow, framesSame]
      have fresh := fresh id dispatched
      refine ⟨fun accounted => ⟨fun other member => ?_, kept⟩,
        fun ⟨accounted, _⟩ other member => ?_⟩
      · rcases accounted other (List.mem_append_left _ member) with
          member' | answered
        · rcases List.mem_append.mp member' with earlier | here
          · exact .inl earlier
          · rw [List.mem_singleton] at here
            exact absurd (here ▸ member) fresh
        · exact .inr answered
      · rcases List.mem_append.mp member with earlier | here
        · exact (accounted other earlier).imp_left (List.mem_append_left _)
        · exact .inl (List.mem_append_right _ here)
  | refused id message dispatched kept pendingSame framesNow phase =>
      rw [dispatched, Accounted, Accounted, pendingSame, framesNow]
      have fresh := fresh id dispatched
      have same (other : RequestId) (member : other ∈ ids) :
          Answered other (before.frames ++ [.error ⟨id, message⟩]) ↔
            Answered other before.frames :=
        answered_foreign rfl (by rintro rfl; exact fresh member)
      refine ⟨fun accounted => ⟨fun other member => ?_, kept⟩,
        fun ⟨accounted, _⟩ other member => ?_⟩
      · exact (accounted other (List.mem_append_left _ member)).imp_right
          (same other member).mp
      · rcases List.mem_append.mp member with earlier | here
        · exact (accounted other earlier).imp_right (same other earlier).mpr
        · obtain rfl : other = id := List.mem_singleton.mp here
          have none : ChunksOnly (fun _ => True)
              (framesFor other before.frames) := by
            rw [tracked.foreign _ fresh]
            exact .nil
          exact .inr (answered_concat none rfl rfl)
  | dropped id dispatched lost same =>
      subst same
      have fresh := fresh id dispatched
      refine iff_of_false (fun accounted => ?_) fun both => ?_
      · rcases accounted id (by simp [dispatched]) with member | answered
        · exact fresh (tracked.known id member)
        · exact not_answered_nil (tracked.foreign id fresh) answered
      · rw [lost] at both
        cases both.2
  | streamed chunk rest undispatched kept current pendingSame framesNow later
      passed alive =>
      rw [undispatched, Option.toList_none, List.append_nil, Accounted,
        Accounted, pendingSame, framesNow, and_iff_left kept]
      refine forall₂_congr fun other member => ?_
      by_cases here : other = chunk.requestId
      · have head : other ∈ pending before := by
          rw [current, here]
          exact List.mem_cons_self
        exact iff_of_true (.inl head) (.inl head)
      · rw [answered_foreign rfl here]
  | answered id rest last undispatched kept current pendingNow framesNow own
      terminal alive =>
      rw [undispatched, Option.toList_none, List.append_nil, Accounted,
        Accounted, pendingNow, framesNow, and_iff_left kept, current]
      refine forall₂_congr fun other member => ?_
      by_cases here : other = id
      · subst here
        exact iff_of_true
          (.inr (answered_concat (tracked.current _ rest current) own terminal))
          (.inl List.mem_cons_self)
      · rw [answered_foreign own here, List.mem_cons, or_iff_right here]
  | ended undispatched kept pendingNow framesSame =>
      rw [undispatched, Option.toList_none, List.append_nil, Accounted,
        Accounted, pendingNow, framesSame, kept]
      constructor
      · intro accounted
        have each (id : RequestId) (member : id ∈ ids) :
            Answered id before.frames :=
          (accounted id member).resolve_left List.not_mem_nil
        refine ⟨fun id member => .inr (each id member), ?_⟩
        rw [List.eq_nil_iff_forall_not_mem]
        intro id member
        exact tracked.not_answered member (each id (tracked.known id member))
      · rintro ⟨accounted, empty⟩ id member
        rw [empty] at accounted
        exact accounted id member

theorem handed_concat : handed (history ++ [(before, event)]) =
    handed history ++ event.dispatched.toList := by
  rw [handed, List.filterMap_append, ← handed]
  cases known : event.dispatched with
  | none => simp [known]
  | some id => simp [known]

theorem not_mem_of_distinct {dispatched : Option RequestId}
    (distinct : (ids ++ dispatched.toList).Nodup) :
    ∀ id, dispatched = some id → id ∉ ids := by
  rintro id rfl member
  exact List.disjoint_of_nodup_append distinct member List.mem_cons_self

theorem tracked_run (run : backend.Run history final)
    (distinct : (handed history).Nodup) :
    Tracked (handed history) final ∧
      (Accounted (handed history) final ↔
        Guarded (fun _ state event => keepsFrames state event = true)
          history) := by
  induction run with
  | start =>
      refine ⟨⟨List.nodup_nil, fun _ member => ?_, fun _ _ => rfl,
        fun _ _ whole => ?_, fun _ member => ?_, fun _ => rfl⟩,
        iff_of_true ?_ Guarded.start⟩
      · cases member
      · cases whole
      · cases member
      · intro id member
        cases member
  | next run taken ih =>
      rw [handed_concat] at distinct
      rw [handed_concat, guarded_concat]
      obtain ⟨tracked, accounted⟩ := ih (List.Nodup.of_append_left distinct)
      have fresh := not_mem_of_distinct distinct
      have effect := step_effect taken
      rw [← accounted]
      exact ⟨tracked_step tracked effect fresh,
        accounted_step tracked effect fresh⟩

private theorem pending_resting (tracked : Tracked ids state)
    (resting : isResting state = true) : pending state = [] := by
  unfold isResting at resting
  split at resting
  · next phase =>
      rw [List.isEmpty_iff] at resting
      simp [pending, phase, resting, WorkerPhase.job]
  · next phase => exact tracked.closed phase
  · cases resting

/-- When the worker rests, every request has been answered with one terminal
frame exactly when no step of the run lost a job or a frame. -/
theorem answered_iff_guarded (run : backend.Run history final)
    (distinct : (handed history).Nodup)
    (resting : isResting final = true) :
    (∀ id ∈ handed history, Answered id final.frames) ↔
      Guarded (fun _ state event => keepsFrames state event = true)
        history := by
  obtain ⟨tracked, accounted⟩ := tracked_run run distinct
  rw [← accounted, Accounted, pending_resting tracked resting]
  simp only [List.not_mem_nil, false_or]

def smallPrompt (requestId : RequestId) : PromptDispatch where
  requestId
  model := "m"
  payload := .object [("prompt", .string "hello")]

/-- The second prompt arrives while the first one is generated, for a model that
is not ready. -/
theorem answered_iff_guarded_streamed :
    ∃ history final, backend.Run history final ∧
      handed history = ["r", "s"] ∧ isResting final = true ∧
      ∀ id ∈ handed history, Answered id final.frames := by
  obtain ⟨history, final, run, observed⟩ :=
    backend.exists_run_of_trace
      [.dispatch (smallPrompt "r") true true, .init true, .recv,
        .prepare (.ok 2), .turn (.token (some "hi") none),
        .dispatch (smallPrompt "s") false true, .turn .endOfGeneration,
        .finish (.ok ())]
      (fun outcome => handed outcome.1 = ["r", "s"] ∧
        isResting outcome.2 = true ∧
        admits (fun _ => keepsFrames) [] outcome.1 = true)
      (by decide +kernel)
  obtain ⟨ids, resting, admitted⟩ := of_decide_eq_true observed
  have distinct : (handed history).Nodup := by
    rw [ids]
    decide
  exact ⟨history, final, run, ids, resting,
    (answered_iff_guarded run distinct resting).mpr
      (guarded_of_admits admitted)⟩

/-- The library fails to initialise after a prompt has been queued. -/
theorem queued_job_is_dropped :
    ∃ history final, backend.Run history final ∧ handed history = ["r"] ∧
      isResting final = true ∧ final.frames = [] ∧
      ¬ ∀ id ∈ handed history, Answered id final.frames := by
  obtain ⟨history, final, run, observed⟩ :=
    backend.exists_run_of_trace
      [.dispatch (smallPrompt "r") true true, .init false]
      (fun outcome => handed outcome.1 = ["r"] ∧
        isResting outcome.2 = true ∧ outcome.2.frames.isEmpty = true)
      (by decide +kernel)
  obtain ⟨ids, resting, empty⟩ := of_decide_eq_true observed
  rw [List.isEmpty_iff] at empty
  refine ⟨history, final, run, ids, resting, empty, fun answered => ?_⟩
  apply not_answered_nil _ (answered "r" (by rw [ids]; exact List.mem_cons_self))
  rw [empty]
  rfl

end JwSwarm.LinuxNode
