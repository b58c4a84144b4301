import JwSwarm.FleetManager.PendingTable

namespace JwSwarm.FleetManager

open Proto Transition Machine

/-! The streaming response against the buffered one, on the same events. -/

variable {app : AppState} {history : History FleetState Event}
variable {final : FleetState} {id : RequestId} {call : ChatCall}

/-- What the response stream has emitted for the events it received. -/
def emitted (id : RequestId) (call : ChatCall) : List SseData :=
  call.received.flatMap (eventsFor id call)

/-- One content frame for each chunk up to the first terminal event, then the
terminal frame, then the end marker. -/
def expectedFrames (id : RequestId) (call : ChatCall) :
    List RequestEvent → List SseData
  | [] => []
  | .chunk chunk :: rest =>
      .chunk id call.created call.model chunk.delta none ::
        expectedFrames id call rest
  | .done _ :: _ =>
      [.chunk id call.created call.model "" (some "stop"), .doneMarker]
  | .error error :: _ => [.error error.message, .doneMarker]

/-- The text a client puts together from the frames of a stream. -/
def contentDeltas : List SseData → String
  | [] => ""
  | .chunk _ _ _ delta _ :: rest => delta ++ contentDeltas rest
  | .error _ :: rest => contentDeltas rest
  | .doneMarker :: rest => contentDeltas rest

def SseData.isError : SseData → Bool
  | .error _ => true
  | _ => false

def Response.isBadGateway : Response → Bool
  | .error status _ => status == 502
  | _ => false

/-- The frames of a stream against the response that the buffered path makes of
the same events. -/
structure FramesAgree (id : RequestId) (call : ChatCall) : Prop where
  frames : emitted id call = expectedFrames id call call.received
  content : ∀ exit, bufferedLoop "" call.received = some exit →
    exit.errored = none → contentDeltas (emitted id call) = exit.content
  error : ∀ exit, bufferedLoop "" call.received = some exit →
    ((emitted id call).any SseData.isError = true ↔
      (respond id call exit).isBadGateway = true)

/-- The stream comes to an end by itself in some continuation of the run. -/
def CanEnd (app : AppState) (history : History FleetState Event)
    (state : FleetState) (id : RequestId) : Prop :=
  ∃ events whole final call,
    (fleetManager app).trace events history state = some (whole, final) ∧
      final.calls.lookup id = some call ∧ call.streamEnded = true

/-- The streaming response to a request agrees with the buffered one. -/
structure StreamAgrees (app : AppState) (history : History FleetState Event)
    (state : FleetState) (id : RequestId) (call : ChatCall) : Prop extends
    FramesAgree id call where
  ends : CanEnd app history state id

/-- Nothing follows the first terminal event. -/
def TerminalLast (events : List RequestEvent) : Prop :=
  ∀ event ∈ events.dropLast, event.isTerminal = false

variable {events rest : List RequestEvent} {event : RequestEvent}

theorem flatMap_eventsFor_eq_nil_iff :
    events.flatMap (eventsFor id call) = [] ↔ events = [] := by
  constructor
  · intro silent
    cases events with
    | nil => rfl
    | cons event rest =>
        cases event with
        | chunk chunk => simp [eventsFor] at silent
        | done done => simp [eventsFor] at silent
        | error error => simp [eventsFor] at silent
  · rintro rfl
    rfl

theorem terminalLast_cons_iff_of_terminal (terminal : event.isTerminal = true) :
    TerminalLast (event :: rest) ↔ rest = [] := by
  cases rest with
  | nil => simp [TerminalLast]
  | cons next rest => simp [TerminalLast, terminal]

private theorem terminalLast_cons_iff_of_quiet
    (quiet : event.isTerminal = false) :
    TerminalLast (event :: rest) ↔ TerminalLast rest := by
  cases rest with
  | nil => simp [TerminalLast]
  | cons next rest => simp [TerminalLast, quiet]

theorem flatMap_eventsFor_eq_expectedFrames_iff :
    events.flatMap (eventsFor id call) = expectedFrames id call events ↔
      TerminalLast events := by
  induction events with
  | nil => simp [expectedFrames, TerminalLast]
  | cons event rest ih =>
      rw [List.flatMap_cons]
      cases event with
      | chunk chunk =>
          rw [terminalLast_cons_iff_of_quiet rfl, ← ih]
          simp [eventsFor, expectedFrames]
      | done done =>
          rw [terminalLast_cons_iff_of_terminal rfl]
          simpa [eventsFor, expectedFrames] using flatMap_eventsFor_eq_nil_iff
      | error error =>
          rw [terminalLast_cons_iff_of_terminal rfl]
          simpa [eventsFor, expectedFrames] using flatMap_eventsFor_eq_nil_iff

private theorem contentDeltas_expectedFrames {content : String}
    {exit : BufferedExit} (exits : bufferedLoop content events = some exit) :
    content ++ contentDeltas (expectedFrames id call events) =
      exit.content := by
  induction events generalizing content with
  | nil => cases exits
  | cons event rest ih =>
      cases event with
      | chunk chunk =>
          rw [expectedFrames, contentDeltas, ← String.append_assoc]
          exact ih exits
      | done done =>
          cases exits
          simp [expectedFrames, contentDeltas]
      | error error =>
          cases exits
          simp [expectedFrames, contentDeltas]

private theorem isError_expectedFrames {content : String} {exit : BufferedExit}
    (exits : bufferedLoop content events = some exit) :
    (expectedFrames id call events).any SseData.isError =
      (respond id call exit).isBadGateway := by
  induction events generalizing content with
  | nil => cases exits
  | cons event rest ih =>
      cases event with
      | chunk chunk =>
          rw [expectedFrames, List.any_cons, ih exits]
          rfl
      | done done =>
          cases exits
          rfl
      | error error =>
          cases exits
          rfl

private theorem framesAgree_iff :
    FramesAgree id call ↔ TerminalLast call.received := by
  constructor
  · intro agree
    exact flatMap_eventsFor_eq_expectedFrames_iff.mp agree.frames
  · intro last
    have frames : emitted id call = expectedFrames id call call.received :=
      flatMap_eventsFor_eq_expectedFrames_iff.mpr last
    refine ⟨frames, fun exit exits _ => ?_, fun exit exits => ?_⟩
    · have collected : "" ++ contentDeltas (emitted id call) =
          exit.content := by
        rw [frames]
        exact contentDeltas_expectedFrames exits
      rwa [String.empty_append] at collected
    · rw [frames, isError_expectedFrames exits]

/-- The response stream owns the cleanup guard of the entry that holds its
channel's only sender: it never ends by itself. -/
theorem not_canEnd (run : (fleetManager app).Run history final)
    (id : RequestId) : ¬ CanEnd app history final id := by
  rintro ⟨events, whole, ended, call, traced, found, streamEnded⟩
  have attended := attended_run (trace_run run traced)
  have unended := (attended id _ (view_of_found found)).unended
  cases unended.symm.trans streamEnded

/-- A streaming response never agrees with the buffered one, since its stream
does not end; its frames do exactly when nothing follows the terminal event. -/
theorem streamAgrees_never (run : (fleetManager app).Run history final) :
    ∀ id call, final.calls.lookup id = some call → call.stream = true →
      call.received.any RequestEvent.isTerminal = true →
      ¬ StreamAgrees app history final id call ∧
        (FramesAgree id call ↔ TerminalLast call.received) := by
  intro id call _ _ _
  exact ⟨fun agrees => not_canEnd run id agrees.ends, framesAgree_iff⟩

theorem streamAgrees_never_done :
    ∃ history final call, (fleetManager bareApp).Run history final ∧
      final.calls.lookup "r" = some call ∧
      call.received = [.chunk ⟨"r", "a", 0⟩, .done ⟨"r", ⟨1, 1, 2⟩⟩] ∧
      ¬ StreamAgrees bareApp history final "r" call ∧ FramesAgree "r" call := by
  obtain ⟨history, final, run, observed⟩ :=
    (fleetManager bareApp).exists_run_of_trace
      (dispatchEvents "node" ++
        [.receive 0 (.text (.tokenChunk ⟨"r", "a", 0⟩)),
          .receive 0 (.text (.done ⟨"r", ⟨1, 1, 2⟩⟩)), .recv "r", .recv "r"])
      (fun outcome => (outcome.2.calls.lookup "r").any fun call =>
        call.stream = true ∧
          call.received = [.chunk ⟨"r", "a", 0⟩, .done ⟨"r", ⟨1, 1, 2⟩⟩])
      (by decide +kernel)
  obtain ⟨call, found, observed⟩ := (Option.any_eq_true _ _).mp observed
  obtain ⟨stream, received⟩ := of_decide_eq_true observed
  obtain ⟨disagrees, frames⟩ :=
    streamAgrees_never run "r" call found stream (by rw [received]; rfl)
  refine ⟨history, final, call, run, found, received, disagrees,
    frames.mpr ?_⟩
  rw [received]
  intro event inside
  obtain rfl := List.mem_singleton.mp inside
  rfl

/-- The node sends `Done` twice: the client's stream emits a second end marker
and waits for more. -/
theorem answered_stream_goes_on :
    ∃ history final call, (fleetManager bareApp).Run history final ∧
      final.calls.lookup "r" = some call ∧ call.stream = true ∧
      call.received = [.done ⟨"r", ⟨1, 1, 2⟩⟩, .done ⟨"r", ⟨1, 1, 2⟩⟩] ∧
      (emitted "r" call).length = 4 ∧ ¬ CanEnd bareApp history final "r" ∧
      ¬ StreamAgrees bareApp history final "r" call := by
  obtain ⟨history, final, run, observed⟩ :=
    (fleetManager bareApp).exists_run_of_trace
      (dispatchEvents "node" ++
        [.receive 0 (.text (.done ⟨"r", ⟨1, 1, 2⟩⟩)), .recv "r",
          .receive 0 (.text (.done ⟨"r", ⟨1, 1, 2⟩⟩)), .recv "r"])
      (fun outcome => (outcome.2.calls.lookup "r").any fun call =>
        call.stream = true ∧ call.received =
          [.done ⟨"r", ⟨1, 1, 2⟩⟩, .done ⟨"r", ⟨1, 1, 2⟩⟩])
      (by decide +kernel)
  obtain ⟨call, found, observed⟩ := (Option.any_eq_true _ _).mp observed
  obtain ⟨stream, received⟩ := of_decide_eq_true observed
  refine ⟨history, final, call, run, found, stream, received, ?_,
    not_canEnd run "r", fun agrees => not_canEnd run "r" agrees.ends⟩
  rw [emitted, received]
  rfl

end JwSwarm.FleetManager
