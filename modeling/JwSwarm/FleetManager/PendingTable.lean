import JwSwarm.FleetManager.Requests

namespace JwSwarm.FleetManager

open Data Proto Transition Machine FleetState

/-! The pending table against the handlers: an entry is meant to live as long as
somebody listens for the request's next event. -/

variable {app : AppState} {history : History FleetState Event}
variable {before after final : FleetState} {event : Event} {id : RequestId}

/-- What matters of a handler for its entry. -/
structure CallView where
  listening : Bool
  pastSend : Bool
  received : List RequestEvent
  streamEnded : Bool

namespace ChatCall

def streamEnded (call : ChatCall) : Bool :=
  match call.phase with
  | .returned .sse => true
  | _ => false

def view (call : ChatCall) : CallView where
  listening := call.listening
  pastSend := call.pastSend
  received := call.received
  streamEnded := call.streamEnded

/-- The handler or its response stream is alive and has received no terminal
event. -/
def unfinished (call : ChatCall) : Bool :=
  call.listening && call.received.all fun event => !event.isTerminal

end ChatCall

def FleetState.view (state : FleetState) (id : RequestId) : Option CallView :=
  (state.calls.lookup id).map ChatCall.view

/-- Every entry belongs to a handler that still waits for its terminal event. -/
def PendingHygiene (_ : History FleetState Event) (state : FleetState) :
    Prop :=
  ∀ id, (state.registry.pending.lookup id).isSome = true →
    ∃ call, state.calls.lookup id = some call ∧ call.unfinished = true

/-- No response stream takes a terminal event, and no buffered handler is
dropped while it waits. -/
def removesEntry (state : FleetState) : Event → Bool
  | .recv id =>
      (state.calls.lookup id).all fun call =>
        !call.stream || call.inbox.head?.all fun event => !event.isTerminal
  | .disconnect id => (state.calls.lookup id).all ChatCall.stream
  | _ => true

theorem view_insert {calls : AList fun _ : RequestId => ChatCall}
    {other : RequestId} {call : ChatCall}
    (changed : after.calls = calls.insert other call) :
    after.view id =
      if id = other then some call.view
      else (calls.lookup id).map ChatCall.view := by
  rw [FleetState.view, changed, lookup_insert_apply]
  split
  · rfl
  · rfl

theorem view_offer (call : ChatCall) (event : RequestEvent) :
    (call.offer event).view = call.view := by
  unfold ChatCall.offer
  split
  · rfl
  · rfl

/-- What one step does to one request: to its handler and to its entry. In a run
no stream is `starved`: its own entry keeps its channel open. -/
inductive Handling (before after : FleetState) (event : Event)
    (id : RequestId) : Prop
  | quiet (view : after.view id = before.view id)
      (pending : after.registry.pending.lookup id =
        before.registry.pending.lookup id)
  | started (view : CallView) (same : after.view id = some view)
      (silent : view.listening = false) (unread : view.received = [])
      (unended : view.streamEnded = false) (fresh : before.view id = none)
      (pending : after.registry.pending.lookup id =
        before.registry.pending.lookup id)
  | refused (call : ChatCall) (found : before.calls.lookup id = some call)
      (deaf : call.listening = false)
      (view : after.view id = some { call.view with pastSend := true })
      (pending : after.registry.pending.lookup id =
        before.registry.pending.lookup id)
  | opened (call : ChatCall) (found : before.calls.lookup id = some call)
      (early : call.pastSend = false)
      (view : after.view id = some { call.view with listening := true })
      (pending : (after.registry.pending.lookup id).isSome = true)
  | sent (call : ChatCall) (found : before.calls.lookup id = some call)
      (waits : call.listening = true)
      (view : after.view id = some { call.view with pastSend := true })
      (pending : after.registry.pending.lookup id =
        before.registry.pending.lookup id)
  | took (call : ChatCall) (first : RequestEvent) (same : event = .recv id)
      (found : before.calls.lookup id = some call)
      (waits : call.listening = true) (past : call.pastSend = true)
      (head : call.inbox.head? = some first)
      (loops : call.stream = true ∨ first.isTerminal = false)
      (view : after.view id =
        some { call.view with received := call.received ++ [first] })
      (pending : after.registry.pending.lookup id =
        before.registry.pending.lookup id)
  | closed (view : CallView) (same : after.view id = some view)
      (silent : view.listening = false) (past : view.pastSend = true)
      (unended : view.streamEnded = false)
      (pending : after.registry.pending.lookup id = none)
  | dropped (call : ChatCall) (same : event = .disconnect id)
      (found : before.calls.lookup id = some call)
      (waits : call.listening = true) (buffered : call.stream = false)
      (view : after.view id = some { call.view with
        listening := false, pastSend := true, streamEnded := false })
      (pending : after.registry.pending.lookup id =
        before.registry.pending.lookup id)
  | starved (call : ChatCall) (same : event = .recv id)
      (found : before.calls.lookup id = some call)
      (waits : call.listening = true)
      (pending : before.registry.pending.lookup id = none)

namespace Handling

variable {other : RequestId} {call grown : ChatCall}

theorem of_same (calls : after.calls = before.calls)
    (pending : after.registry.pending = before.registry.pending) :
    Handling before after event id :=
  .quiet (by rw [FleetState.view, calls, FleetState.view]) (by rw [pending])

theorem of_other (different : id ≠ other)
    (calls : after.calls = before.calls.insert other grown)
    (pending : after.registry.pending.lookup id =
      before.registry.pending.lookup id) :
    Handling before after event id :=
  .quiet ((view_insert calls).trans (if_neg different)) pending

theorem view_own (calls : after.calls = before.calls.insert id grown) :
    after.view id = some grown.view :=
  (view_insert calls).trans (if_pos rfl)

theorem of_move (found : before.calls.lookup id = some call)
    (calls : after.calls = before.calls.insert id grown)
    (view : grown.view = call.view)
    (pending : after.registry.pending.lookup id =
      before.registry.pending.lookup id) :
    Handling before after event id := by
  refine .quiet ?_ pending
  rw [view_own calls, view, FleetState.view, found]
  rfl

end Handling

private theorem handling_receive {tunnel : TunnelId} {frame : Inbound}
    (taken : step app before (.receive tunnel frame) = some after) :
    Handling before after (.receive tunnel frame) id := by
  obtain ⟨task, -, -, -, ⟨msg, -, rfl⟩ | ⟨-, rfl⟩ | ⟨-, rfl⟩⟩ :=
    stepReceive_cases taken
  · refine .quiet ?_ (by rw [pending_stepMessage])
    rw [FleetState.view, calls_stepMessage]
    cases (handleMessage app before.registry tunnel task.session
        before.clock msg).delivered with
    | none => rfl
    | some delivered =>
        rw [lookup_deliver, FleetState.view]
        split
        · cases before.calls.lookup id with
          | none => rfl
          | some call => exact congrArg some (view_offer call delivered.2)
        · rfl
  · refine .of_same ?_ pending_stepClose
    unfold stepClose
    cases task.session with
    | none => rfl
    | some session => rfl
  · exact .of_same rfl rfl

theorem lookup_completeRequest_ne {registry : Registry} {other : RequestId}
    (different : id ≠ other) :
    (registry.completeRequest other).pending.lookup id =
      registry.pending.lookup id := by
  rw [Registry.lookup_completeRequest, if_neg different]

theorem lookup_completeRequest_self {registry : Registry} :
    (registry.completeRequest id).pending.lookup id = none := by
  rw [Registry.lookup_completeRequest, if_pos rfl]

private theorem streamEnded_respond (id : RequestId) (call : ChatCall)
    (exit : BufferedExit) :
    ChatCall.streamEnded { call with phase := .returned (respond id call exit) }
      = false := by
  unfold respond
  split
  · rfl
  · rfl

section StartCall

variable (nodes : List NodeState) (body : Json)

private theorem listening_startCall :
    (startCall app nodes body).listening = false := by
  unfold startCall
  split
  · rfl
  · unfold ChatCall.listening
    cases Router.pickNode nodes _ app.weights with
    | none => rfl
    | some nodeId => rfl

theorem received_startCall : (startCall app nodes body).received = [] := by
  unfold startCall
  split
  · rfl
  · rfl

private theorem streamEnded_startCall :
    (startCall app nodes body).streamEnded = false := by
  unfold startCall
  split
  · rfl
  · unfold ChatCall.streamEnded
    cases Router.pickNode nodes _ app.weights with
    | none => rfl
    | some nodeId => rfl

end StartCall

private theorem handling_lookupSender
    (taken : step app before (.lookupSender id) = some after) :
    Handling before after (.lookupSender id) id := by
  obtain ⟨call, nodeId, phase, found, picked, rfl, outcome⟩ :=
    stepLookupSender_cases taken
  rcases outcome with ⟨sender, -, rfl⟩ | ⟨-, rfl⟩
  · refine .of_move found rfl ?_ rfl
    simp [ChatCall.view, ChatCall.listening, ChatCall.pastSend,
      ChatCall.streamEnded, picked]
  · refine .refused call found (by simp [ChatCall.listening, picked]) ?_ rfl
    rw [Handling.view_own rfl]
    simp [ChatCall.view, ChatCall.listening, ChatCall.pastSend,
      ChatCall.streamEnded, picked]

private theorem handling_registerRequest
    (taken : step app before (.registerRequest id) = some after) :
    Handling before after (.registerRequest id) id := by
  obtain ⟨call, nodeId, sender, found, addressed, rfl⟩ :=
    stepRegisterRequest_cases taken
  refine .opened call found (by simp [ChatCall.pastSend, addressed]) ?_ ?_
  · rw [Handling.view_own rfl]
    simp [ChatCall.view, ChatCall.listening, ChatCall.pastSend,
      ChatCall.streamEnded, addressed]
  · simp [Registry.lookup_registerRequest]

private theorem handling_send
    (taken : step app before (.send id) = some after) :
    Handling before after (.send id) id := by
  obtain ⟨call, nodeId, sender, task, found, registered, -,
    ⟨-, rfl⟩ | ⟨-, rfl⟩⟩ := stepSend_cases taken
  · refine .sent call found (by simp [ChatCall.listening, registered]) ?_ rfl
    rw [Handling.view_own rfl]
    simp [ChatCall.view, ChatCall.listening, ChatCall.pastSend,
      ChatCall.streamEnded, registered]
  · exact .closed _ (Handling.view_own rfl) rfl rfl rfl
      lookup_completeRequest_self

private theorem handling_recv
    (taken : step app before (.recv id) = some after) :
    Handling before after (.recv id) id := by
  obtain ⟨call, nodeId, sender, found, awaiting, outcome⟩ :=
    stepRecv_cases taken
  have waits : call.listening = true := by
    simp [ChatCall.listening, awaiting]
  rcases outcome with ⟨first, rest, inbox, loops, rfl⟩ |
    ⟨first, rest, exit, inbox, buffered, exits, rfl⟩ | ⟨empty, closed, -⟩
  · refine .took call first rfl found waits (by simp [ChatCall.pastSend, awaiting])
      (by rw [inbox]; rfl) ?_ ?_ rfl
    · refine loops.imp_right fun waiting => ?_
      exact bufferedLoop_eq_none_iff.mp waiting first (by simp)
    · rw [Handling.view_own rfl]
      rfl
  · exact .closed _ (Handling.view_own rfl) rfl rfl
      (streamEnded_respond id call exit) lookup_completeRequest_self
  · exact .starved call rfl found waits closed

private theorem handling_disconnect
    (taken : step app before (.disconnect id) = some after) :
    Handling before after (.disconnect id) id := by
  obtain ⟨call, nodeId, sender, found, awaiting,
    ⟨stream, rfl⟩ | ⟨buffered, rfl⟩⟩ := stepDisconnect_cases taken
  · exact .closed _ (Handling.view_own rfl) rfl rfl rfl
      lookup_completeRequest_self
  · refine .dropped call rfl found (by simp [ChatCall.listening, awaiting])
      buffered ?_ rfl
    rw [Handling.view_own rfl]
    rfl

theorem handling_step (taken : step app before event = some after)
    (id : RequestId) : Handling before after event id := by
  have background (unowned : event.caller = none)
      (quiet : event.isReceive = false) : Handling before after event id := by
    obtain ⟨calls, registry⟩ := background_step taken unowned quiet
    exact .of_same calls (by rw [registry])
  cases event with
  | receive tunnel frame => exact handling_receive taken
  | request other body nodes =>
      obtain ⟨fresh, -, rfl⟩ := stepRequest_cases taken
      by_cases same : id = other
      · subst same
        exact .started _ (Handling.view_own rfl)
          (listening_startCall nodes body) (received_startCall nodes body)
          (streamEnded_startCall nodes body)
          (by rw [FleetState.view, fresh]; rfl) rfl
      · exact .of_other same rfl rfl
  | lookupSender other =>
      by_cases same : id = other
      · subst same
        exact handling_lookupSender taken
      · obtain ⟨_, _, _, -, -, rfl, -⟩ := stepLookupSender_cases taken
        exact .of_other same rfl rfl
  | registerRequest other =>
      by_cases same : id = other
      · subst same
        exact handling_registerRequest taken
      · obtain ⟨_, _, _, -, -, rfl⟩ := stepRegisterRequest_cases taken
        refine .of_other same rfl ?_
        rw [Registry.lookup_registerRequest, if_neg same]
  | send other =>
      by_cases same : id = other
      · subst same
        exact handling_send taken
      · obtain ⟨_, _, _, _, -, -, -, ⟨-, rfl⟩ | ⟨-, rfl⟩⟩ :=
          stepSend_cases taken
        · exact .of_other same rfl rfl
        · exact .of_other same rfl (lookup_completeRequest_ne same)
  | recv other =>
      by_cases same : id = other
      · subst same
        exact handling_recv taken
      · obtain ⟨_, _, _, -, -,
          ⟨_, _, -, -, rfl⟩ | ⟨_, _, _, -, -, -, rfl⟩ | ⟨-, -, _, rfl⟩⟩ :=
          stepRecv_cases taken
        · exact .of_other same rfl rfl
        · exact .of_other same rfl (lookup_completeRequest_ne same)
        · exact .of_other same rfl rfl
  | disconnect other =>
      by_cases same : id = other
      · subst same
        exact handling_disconnect taken
      · obtain ⟨_, _, _, -, -, ⟨-, rfl⟩ | ⟨-, rfl⟩⟩ :=
          stepDisconnect_cases taken
        · exact .of_other same rfl (lookup_completeRequest_ne same)
        · exact .of_other same rfl rfl
  | _ => exact background rfl rfl

structure Attends (state : FleetState) (id : RequestId) (view : CallView) :
    Prop where
  listed : view.listening = true →
    (state.registry.pending.lookup id).isSome = true
  unread : view.pastSend = false → view.received = []
  unended : view.streamEnded = false

def Attended (state : FleetState) : Prop :=
  ∀ id view, state.view id = some view → Attends state id view

theorem view_of_found {call : ChatCall}
    (found : before.calls.lookup id = some call) :
    before.view id = some call.view := by
  rw [FleetState.view, found]
  rfl

theorem Attends.of_silent {state : FleetState} {view : CallView}
    (silent : view.listening = false)
    (unread : view.pastSend = false → view.received = [])
    (unended : view.streamEnded = false) : Attends state id view where
  listed waits := absurd (silent.symm.trans waits) Bool.false_ne_true
  unread := unread
  unended := unended

private theorem attended_step (attended : Attended before)
    (taken : step app before event = some after) : Attended after := by
  intro id view known
  have own {call : ChatCall} (found : before.calls.lookup id = some call) :
      Attends before id call.view := attended id _ (view_of_found found)
  have early {past : Bool} {received : List RequestEvent} (sent : past = true)
      (unsent : past = false) : received = [] :=
    absurd (sent.symm.trans unsent) Bool.noConfusion
  cases handling_step taken id with
  | quiet same pending =>
      have old := attended id view (same.symm.trans known)
      exact ⟨pending.symm ▸ old.listed, old.unread, old.unended⟩
  | started started same silent unread unended fresh pending =>
      obtain rfl := Option.some.inj (same.symm.trans known)
      exact .of_silent silent (fun _ => unread) unended
  | refused call found deaf same pending =>
      obtain rfl := Option.some.inj (same.symm.trans known)
      exact .of_silent deaf (early rfl) (own found).unended
  | opened call found unsent same pending =>
      obtain rfl := Option.some.inj (same.symm.trans known)
      exact ⟨fun _ => pending, (own found).unread, (own found).unended⟩
  | sent call found waits same pending =>
      obtain rfl := Option.some.inj (same.symm.trans known)
      exact ⟨fun _ => pending.symm ▸ (own found).listed waits, early rfl,
        (own found).unended⟩
  | took call first here found waits past head loops same pending =>
      obtain rfl := Option.some.inj (same.symm.trans known)
      exact ⟨fun _ => pending.symm ▸ (own found).listed waits, early past,
        (own found).unended⟩
  | closed closed same silent past unended pending =>
      obtain rfl := Option.some.inj (same.symm.trans known)
      exact .of_silent silent (early past) unended
  | dropped call here found waits buffered same pending =>
      obtain rfl := Option.some.inj (same.symm.trans known)
      exact .of_silent rfl (early rfl) rfl
  | starved call here found waits pending =>
      have listed := (own found).listed waits
      rw [pending] at listed
      cases listed

theorem attended_run (run : (fleetManager app).Run history final) :
    Attended final := by
  induction run with
  | start =>
      intro id view known
      cases known
  | next run taken ih => exact attended_step ih taken

theorem exists_unfinished_iff :
    (∃ call, before.calls.lookup id = some call ∧ call.unfinished = true) ↔
      ∃ view, before.view id = some view ∧ view.listening = true ∧
        ∀ event ∈ view.received, event.isTerminal = false := by
  constructor
  · rintro ⟨call, found, unfinished⟩
    obtain ⟨waits, quiet⟩ := (Bool.and_eq_true _ _).mp unfinished
    refine ⟨call.view, view_of_found found, waits, fun event inside => ?_⟩
    simpa using List.all_eq_true.mp quiet event inside
  · rintro ⟨view, known, waits, quiet⟩
    obtain ⟨call, found, rfl⟩ := Option.map_eq_some_iff.mp known
    refine ⟨call, found, (Bool.and_eq_true _ _).mpr ⟨waits, ?_⟩⟩
    rw [List.all_eq_true]
    intro event inside
    simpa using quiet event inside

private theorem pendingHygiene_kept (attended : Attended before)
    (holds : PendingHygiene history before)
    (removes : removesEntry before event = true)
    (taken : step app before event = some after) :
    PendingHygiene (history ++ [(before, event)]) after := by
  intro id pendingAfter
  rw [exists_unfinished_iff]
  have known (pending : after.registry.pending.lookup id =
      before.registry.pending.lookup id) :
      ∃ view, before.view id = some view ∧ view.listening = true ∧
        ∀ event ∈ view.received, event.isTerminal = false := by
    rw [← exists_unfinished_iff]
    exact holds id (by rw [← pending]; exact pendingAfter)
  cases handling_step taken id with
  | quiet same pending =>
      rw [same]
      exact known pending
  | started view same silent unread unended fresh pending =>
      obtain ⟨old, found, -⟩ := known pending
      cases fresh.symm.trans found
  | refused call found deaf same pending =>
      obtain ⟨old, viewed, waits, -⟩ := known pending
      obtain rfl := Option.some.inj ((view_of_found found).symm.trans viewed)
      cases deaf.symm.trans waits
  | opened call found early same pending =>
      have unread : call.received = [] :=
        (attended id _ (view_of_found found)).unread early
      refine ⟨_, same, rfl, fun event inside => ?_⟩
      have inside : event ∈ call.received := inside
      rw [unread] at inside
      cases inside
  | sent call found waits same pending =>
      obtain ⟨old, viewed, -, quiet⟩ := known pending
      obtain rfl := Option.some.inj ((view_of_found found).symm.trans viewed)
      exact ⟨_, same, waits, quiet⟩
  | took call first here found waits past head loops same pending =>
      subst here
      obtain ⟨old, viewed, -, quiet⟩ := known pending
      obtain rfl := Option.some.inj ((view_of_found found).symm.trans viewed)
      refine ⟨_, same, waits, fun event inside => ?_⟩
      rcases List.mem_append.mp inside with earlier | last
      · exact quiet event earlier
      · obtain rfl := List.mem_singleton.mp last
        rcases loops with stream | quiet
        · simpa [removesEntry, found, stream, head] using removes
        · exact quiet
  | closed view same silent past unended pending =>
      rw [pending] at pendingAfter
      cases pendingAfter
  | dropped call here found waits buffered same pending =>
      subst here
      simp [removesEntry, found, buffered] at removes
  | starved call here found waits pending =>
      have listed := (attended id _ (view_of_found found)).listed waits
      rw [pending] at listed
      cases listed

private theorem removesEntry_of_hygiene (attended : Attended before)
    (taken : step app before event = some after)
    (holds : PendingHygiene (history ++ [(before, event)]) after) :
    removesEntry before event = true := by
  cases event with
  | recv id =>
      obtain ⟨call, nodeId, sender, found, awaiting, outcome⟩ :=
        stepRecv_cases taken
      have listed := (attended id _ (view_of_found found)).listed
        (by simp [ChatCall.view, ChatCall.listening, awaiting])
      rcases outcome with ⟨first, rest, inbox, -, rfl⟩ |
        ⟨first, rest, exit, -, buffered, -⟩ | ⟨empty, -⟩
      · obtain ⟨grown, known, unfinished⟩ := holds id listed
        obtain rfl := Option.some.inj ((AList.lookup_insert _).symm.trans known)
        have quiet := ((Bool.and_eq_true _ _).mp unfinished).2
        have nonterminal := List.all_eq_true.mp quiet first (by simp)
        simp only [removesEntry, found, Option.all_some, inbox,
          List.head?_cons, nonterminal, Bool.or_true]
      · simp [removesEntry, found, buffered]
      · simp [removesEntry, found, empty]
  | disconnect id =>
      obtain ⟨call, nodeId, sender, found, awaiting,
        ⟨stream, -⟩ | ⟨-, rfl⟩⟩ := stepDisconnect_cases taken
      · simp [removesEntry, found, stream]
      · have listed := (attended id _ (view_of_found found)).listed
          (by simp [ChatCall.view, ChatCall.listening, awaiting])
        obtain ⟨gone, known, unfinished⟩ := holds id listed
        obtain rfl := Option.some.inj ((AList.lookup_insert _).symm.trans known)
        cases unfinished
  | _ => rfl

/-- The pending table is clean all along a run exactly when no stream takes a
terminal event and no waiting buffered handler is dropped. -/
theorem pendingHygiene_along_iff (run : (fleetManager app).Run history final) :
    (fleetManager app).Along PendingHygiene history ↔
      Guarded (fun _ state event => removesEntry state event = true)
        history := by
  refine Machine.Run.along_iff_guarded ?_ ?_ run
  · intro id pending
    cases pending
  · intro history before event after run holds taken
    exact ⟨removesEntry_of_hygiene (attended_run run) taken,
      fun removes => pendingHygiene_kept (attended_run run) holds removes
        taken⟩

theorem pendingHygiene_along_iff_streamed :
    ∃ history final, (fleetManager bareApp).Run history final ∧
      dispatch history "r" = some ("node", 0) ∧
      (final.registry.pending.lookup "r").isNone = true ∧
      (fleetManager bareApp).Along PendingHygiene history := by
  obtain ⟨history, final, run, observed⟩ :=
    (fleetManager bareApp).exists_run_of_trace
      (dispatchEvents "node" ++
        [.receive 0 (.text (.tokenChunk ⟨"r", "a", 0⟩)), .recv "r",
          .disconnect "r"])
      (fun outcome => dispatch outcome.1 "r" = some ("node", 0) ∧
        (outcome.2.registry.pending.lookup "r").isNone = true ∧
        admits (fun _ => removesEntry) [] outcome.1 = true)
      (by decide +kernel)
  obtain ⟨dispatched, gone, admitted⟩ := of_decide_eq_true observed
  exact ⟨history, final, run, dispatched, gone,
    (pendingHygiene_along_iff run).mpr (guarded_of_admits admitted)⟩

/-- The client of a buffered request goes away while its handler waits: no
cleanup runs and the entry stays. -/
theorem dropped_buffered_call_leaks :
    ∃ history final, (fleetManager bareApp).Run history final ∧
      (final.registry.pending.lookup "r").isSome = true ∧
      (final.calls.lookup "r").any ChatCall.listening = false ∧
      ¬ PendingHygiene history final := by
  obtain ⟨history, final, run, observed⟩ :=
    (fleetManager bareApp).exists_run_of_trace
      [.connect, .receive 0 (.text (.register (plainRegister "node"))),
        .receive 0 (.text (.modelStatus ⟨"node", ["m"]⟩)),
        .receive 0 (.text (.heartbeat ⟨"node", idleMetrics, .awake⟩)),
        .request "r" (.object [("model", .string "m")]) [readyNode "node" 0],
        .lookupSender "r", .registerRequest "r", .send "r", .disconnect "r"]
      (fun outcome =>
        (outcome.2.registry.pending.lookup "r").isSome = true ∧
        (outcome.2.calls.lookup "r").any ChatCall.listening = false)
      (by decide +kernel)
  obtain ⟨pending, silent⟩ := of_decide_eq_true observed
  refine ⟨history, final, run, pending, silent, fun holds => ?_⟩
  obtain ⟨call, found, unfinished⟩ := holds "r" pending
  have silent : (final.calls.lookup "r").any ChatCall.listening = false :=
    silent
  rw [found] at silent
  rw [ChatCall.unfinished, show call.listening = false from silent]
    at unfinished
  cases unfinished

end JwSwarm.FleetManager
