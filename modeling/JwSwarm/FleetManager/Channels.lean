import JwSwarm.FleetManager.Dispatches
import JwSwarm.FleetManager.PendingTable

namespace JwSwarm.FleetManager

open Data Proto Transition Machine FleetState

/-! The event channel of a request: which of the frames that the tunnels read
end up in it. -/

/-- The request that a frame answers, and the event that it becomes. -/
def answer : Message → Option (RequestId × RequestEvent)
  | .tokenChunk chunk => some (chunk.requestId, .chunk chunk)
  | .done done => some (done.requestId, .done done)
  | .error error => some (error.requestId, .error error)
  | _ => none

/-- The event that a frame becomes if it answers the request. -/
def answerTo (id : RequestId) (msg : Message) : Option RequestEvent :=
  (answer msg).bind fun answered =>
    if answered.1 = id then some answered.2 else none

def answers (id : RequestId) (frames : List Message) : List RequestEvent :=
  frames.filterMap (answerTo id)

/-- What the event has a read loop hear about the request. -/
def Event.heard (id : RequestId) : Event → List RequestEvent
  | .receive _ (.text msg) => answers id [msg]
  | _ => []

namespace FleetState

def listens (state : FleetState) (id : RequestId) : Bool :=
  (state.calls.lookup id).any ChatCall.listening

/-- Everything that was ever put into the channel of the request. -/
def eventsOf (state : FleetState) (id : RequestId) : List RequestEvent :=
  ((state.calls.lookup id).map ChatCall.events).getD []

end FleetState

/-- What the tunnels have heard about the request while its handler listened. -/
def heard (history : History FleetState Event) (id : RequestId) :
    List RequestEvent :=
  history.flatMap fun taken =>
    if taken.1.listens id then taken.2.heard id else []

variable {app : AppState} {history : History FleetState Event}
variable {before after final state : FleetState} {event : Event}
variable {id other : RequestId} {tunnel : TunnelId} {task : Tunnel}
variable {msg : Message} {call grown : ChatCall} {frames : List Message}

@[simp] theorem answers_nil : answers id [] = [] := rfl

theorem answers_append (left right : List Message) :
    answers id (left ++ right) = answers id left ++ answers id right :=
  List.filterMap_append

theorem answers_cons :
    answers id (msg :: frames) =
      (answerTo id msg).toList ++ answers id frames := by
  cases said : answerTo id msg with
  | none => exact List.filterMap_cons_none said
  | some event => exact List.filterMap_cons_some said

theorem answers_singleton : answers id [msg] = (answerTo id msg).toList := by
  rw [answers_cons, answers_nil, List.append_nil]

theorem eventsOf_of_found (found : state.calls.lookup id = some call) :
    state.eventsOf id = call.events := by
  rw [eventsOf, found]
  rfl

theorem listens_of_found (found : state.calls.lookup id = some call) :
    state.listens id = call.listening := by
  rw [listens, found]
  rfl

theorem eventsOf_of_lookup
    (same : after.calls.lookup id = before.calls.lookup id) :
    after.eventsOf id = before.eventsOf id := by
  rw [eventsOf, same, eventsOf]

theorem eventsOf_insert (found : before.calls.lookup other = some call)
    (calls : after.calls = before.calls.insert other grown)
    (same : grown.events = call.events) :
    after.eventsOf id = before.eventsOf id := by
  rw [eventsOf, calls, lookup_insert_apply]
  split
  · next here =>
      rw [here, eventsOf_of_found found, ← same]
      rfl
  · rfl

private theorem events_offer (call : ChatCall) (event : RequestEvent) :
    (call.offer event).events =
      call.events ++ if call.listening then [event] else [] := by
  unfold ChatCall.offer
  split
  · exact (List.append_assoc ..).symm
  · exact (List.append_nil _).symm

private theorem delivered_handleMessage {registry : Registry}
    {session : Option Session} {now : ℕ} :
    (handleMessage app registry tunnel session now msg).delivered =
      (answer msg).bind fun answered =>
        registry.dispatchEvent answered.1 answered.2 := by
  cases msg with
  | heartbeat heartbeat => exact delivered_handleHeartbeat
  | _ => rfl

private theorem eventsOf_deliver (event : RequestEvent) :
    (state.deliver (some (other, event))).eventsOf id =
      state.eventsOf id ++
        if other = id ∧ state.listens id = true then [event] else [] := by
  rw [eventsOf, lookup_deliver]
  by_cases same : id = other
  · subst same
    rw [if_pos rfl, eventsOf, listens]
    cases state.calls.lookup id with
    | none => simp
    | some call => simpa using events_offer call event
  · rw [if_neg same, if_neg fun both => same both.1.symm, List.append_nil]
    rfl

private theorem eventsOf_stepMessage (attended : Attended before)
    (owned : ∀ id entry, before.registry.pending.lookup id = some entry →
      entry.tx = id) :
    (stepMessage app before tunnel task msg).eventsOf id =
      before.eventsOf id ++
        if before.listens id then answers id [msg] else [] := by
  rw [eventsOf, calls_stepMessage, ← eventsOf, delivered_handleMessage,
    answers_singleton, answerTo]
  cases named : answer msg with
  | none => simp [deliver]
  | some answered =>
      obtain ⟨other, event⟩ := answered
      rw [Option.bind_some, Option.bind_some, Registry.dispatchEvent]
      cases found : before.registry.pending.lookup other with
      | none =>
          have deaf : other = id → before.listens id = false := by
            rintro rfl
            cases known : before.calls.lookup other with
            | none => simp [listens, known]
            | some call =>
                rw [listens_of_found known]
                by_contra waits
                have listed := (attended other _ (view_of_found known)).listed
                  (by simpa [ChatCall.view] using waits)
                simp [found] at listed
          by_cases same : other = id
          · simp [deliver, deaf same]
          · simp [deliver, same]
      | some entry =>
          rw [Option.map_some, owned other entry found, eventsOf_deliver]
          by_cases same : other = id
          · simp [same]
          · simp [same]

theorem eventsOf_step (attended : Attended before)
    (owned : ∀ id entry, before.registry.pending.lookup id = some entry →
      entry.tx = id)
    (taken : step app before event = some after) :
    after.eventsOf id = before.eventsOf id ++
      if before.listens id then event.heard id else [] := by
  have unheard (silent : event.heard id = [])
      (same : after.eventsOf id = before.eventsOf id) :
      after.eventsOf id = before.eventsOf id ++
        if before.listens id then event.heard id else [] := by
    rw [silent, ite_self, List.append_nil, same]
  cases event with
  | receive tunnel frame =>
      obtain ⟨task, -, -, -, ⟨msg, rfl, rfl⟩ | ⟨ends, rfl⟩ | ⟨quiet, rfl⟩⟩ :=
        stepReceive_cases taken
      · exact eventsOf_stepMessage attended owned
      · refine unheard ?_ ?_
        · cases frame with
          | text msg => cases ends
          | _ => rfl
        · unfold stepClose
          cases task.session with
          | none => rfl
          | some session => rfl
      · refine unheard ?_ rfl
        rcases quiet with rfl | rfl
        · rfl
        · rfl
  | request other body nodes =>
      obtain ⟨fresh, -, rfl⟩ := stepRequest_cases taken
      refine unheard rfl ?_
      by_cases same : id = other
      · subst same
        rw [eventsOf_of_found (AList.lookup_insert _), eventsOf, fresh,
          ChatCall.events, received_startCall]
        unfold startCall
        split
        · rfl
        · rfl
      · exact eventsOf_of_lookup (AList.lookup_insert_ne same)
  | lookupSender other =>
      obtain ⟨call, _, _, found, -, rfl, -⟩ := stepLookupSender_cases taken
      exact unheard rfl (eventsOf_insert found rfl rfl)
  | registerRequest other =>
      obtain ⟨call, _, _, found, -, rfl⟩ := stepRegisterRequest_cases taken
      exact unheard rfl (eventsOf_insert found rfl rfl)
  | send other =>
      obtain ⟨call, _, _, _, found, -, -, ⟨-, rfl⟩ | ⟨-, rfl⟩⟩ :=
        stepSend_cases taken
      · exact unheard rfl (eventsOf_insert found rfl rfl)
      · exact unheard rfl (eventsOf_insert found rfl rfl)
  | recv other =>
      obtain ⟨call, _, _, found, -,
        ⟨first, rest, inbox, -, rfl⟩ | ⟨first, rest, exit, inbox, -, -, rfl⟩ |
          ⟨-, -, response, rfl⟩⟩ := stepRecv_cases taken
      · refine unheard rfl (eventsOf_insert found rfl ?_)
        simp [ChatCall.events, inbox]
      · refine unheard rfl (eventsOf_insert found rfl ?_)
        simp [ChatCall.events, inbox]
      · exact unheard rfl (eventsOf_insert found rfl rfl)
  | disconnect other =>
      obtain ⟨call, _, _, found, -, ⟨-, rfl⟩ | ⟨-, rfl⟩⟩ :=
        stepDisconnect_cases taken
      · exact unheard rfl (eventsOf_insert found rfl rfl)
      · exact unheard rfl (eventsOf_insert found rfl rfl)
  | _ =>
      refine unheard rfl (eventsOf_of_lookup ?_)
      rw [(background_step taken rfl rfl).1]

/-- In every run the channel of a request has been sent, once and in order, the
events of the frames that named it while its handler listened. -/
theorem eventsOf_eq_heard (run : (fleetManager app).Run history final)
    (id : RequestId) : final.eventsOf id = heard history id := by
  induction run with
  | start => rfl
  | next run taken ih =>
      rw [eventsOf_step (attended_run run) (fun _ _ => pending_tx run) taken,
        ih, heard, heard, List.flatMap_append]
      simp

/-- The tunnel answers the request, and one that nobody has made. -/
theorem eventsOf_eq_heard_streamed :
    ∃ history final, (fleetManager bareApp).Run history final ∧
      final.eventsOf "r" = [.chunk ⟨"r", "a", 0⟩, .done ⟨"r", ⟨1, 1, 2⟩⟩] ∧
      final.eventsOf "r" = heard history "r" := by
  obtain ⟨history, final, run, observed⟩ :=
    (fleetManager bareApp).exists_run_of_trace
      (dispatchEvents "node" ++
        [.receive 0 (.text (.tokenChunk ⟨"r", "a", 0⟩)), .recv "r",
          .receive 0 (.text (.tokenChunk ⟨"s", "b", 0⟩)),
          .receive 0 (.text (.done ⟨"r", ⟨1, 1, 2⟩⟩))])
      (fun outcome => outcome.2.eventsOf "r" =
        [.chunk ⟨"r", "a", 0⟩, .done ⟨"r", ⟨1, 1, 2⟩⟩])
      (by decide +kernel)
  exact ⟨history, final, run, of_decide_eq_true observed,
    eventsOf_eq_heard run "r"⟩

private theorem listening_offer (call : ChatCall) (event : RequestEvent) :
    (call.offer event).listening = call.listening := by
  have same := view_offer call event
  exact congrArg CallView.listening same

theorem listens_step (taken : step app before event = some after)
    (listens : after.listens id = true) :
    before.listens id = true ∨ before.hasSent id = false := by
  obtain ⟨call, found, waits⟩ := (Option.any_eq_true _ _).mp listens
  have viewed := view_of_found found
  have old {earlier : ChatCall} (known : before.calls.lookup id = some earlier)
      (waited : earlier.listening = true) : before.listens id = true := by
    rw [listens_of_found known, waited]
  have shut {view : CallView} (same : after.view id = some view)
      (silent : view.listening = false) : before.listens id = true := by
    obtain rfl := Option.some.inj (same.symm.trans viewed)
    exact absurd (silent.symm.trans waits) Bool.false_ne_true
  cases handling_step taken id with
  | quiet view pending =>
      rw [viewed] at view
      obtain ⟨earlier, known, same⟩ := Option.map_eq_some_iff.mp view.symm
      exact .inl (old known ((congrArg CallView.listening same).trans waits))
  | started view same silent unread unended fresh pending =>
      exact .inl (shut same silent)
  | refused earlier known deaf same pending => exact .inl (shut same deaf)
  | opened earlier known early same pending =>
      right
      rw [hasSent, known]
      exact early
  | sent earlier known waited same pending => exact .inl (old known waited)
  | took earlier first here known waited past head loops same pending =>
      exact .inl (old known waited)
  | closed view same silent past unended pending =>
      exact .inl (shut same silent)
  | dropped earlier here known waited buffered same pending =>
      exact .inl (old known waited)
  | starved earlier here known waited pending => exact .inl (old known waited)

theorem listens_receive {frame : Inbound}
    (taken : step app before (.receive tunnel frame) = some after) :
    after.listens id = before.listens id := by
  rcases @lookup_calls_foreign _ _ _ _ id taken nofun with same |
    ⟨event, offered⟩
  · rw [listens, same, listens]
  · rw [listens, offered, listens]
    cases before.calls.lookup id with
    | none => rfl
    | some call => exact listening_offer call event

def Responded (id : RequestId) (call : ChatCall) : Prop :=
  ∀ response, call.phase = .returned response →
    (∃ exit, bufferedLoop "" call.received = some exit ∧
      response = respond id call exit) ∨
    (call.received = [] ∧ ∃ status message, response = .error status message)

theorem Responded.of_silent
    (silent : ∀ response, call.phase ≠ .returned response) :
    Responded id call :=
  fun response returned => absurd returned (silent response)

theorem Responded.early (unread : call.received = []) {status : ℕ}
    {message : String}
    (returned : call.phase = .returned (.error status message)) :
    Responded id call := by
  intro response same
  obtain rfl := CallPhase.returned.inj (returned.symm.trans same)
  exact .inr ⟨unread, status, message, rfl⟩

theorem Responded.offer (responded : Responded id call) (event : RequestEvent) :
    Responded id (call.offer event) := by
  unfold ChatCall.offer
  split
  · exact responded
  · exact responded

private theorem responded_startCall {nodes : List NodeState} {body : Json} :
    Responded id (startCall app nodes body) := by
  unfold startCall
  split
  · exact .early rfl rfl
  · next model named =>
      cases Router.pickNode nodes model app.weights with
      | none => exact .early rfl rfl
      | some nodeId => exact .of_silent (by simp)

private theorem responded_step (attended : Attended before)
    (responded : ∀ call, before.calls.lookup id = some call → Responded id call)
    (taken : step app before event = some after) :
    ∀ call, after.calls.lookup id = some call → Responded id call := by
  intro call found
  have own {moved : ChatCall}
      (calls : after.calls = before.calls.insert id moved) : call = moved := by
    rw [calls, AList.lookup_insert] at found
    exact (Option.some.inj found).symm
  have unread {earlier : ChatCall}
      (known : before.calls.lookup id = some earlier)
      (early : earlier.pastSend = false) : earlier.received = [] :=
    (attended id _ (view_of_found known)).unread early
  by_cases mine : event.caller = some id
  · cases event with
    | request other body nodes =>
        obtain rfl := Option.some.inj mine
        obtain ⟨-, -, rfl⟩ := stepRequest_cases taken
        rw [own rfl]
        exact responded_startCall
    | lookupSender other =>
        obtain rfl := Option.some.inj mine
        obtain ⟨earlier, _, _, known, picked, rfl, ⟨_, -, rfl⟩ | ⟨-, rfl⟩⟩ :=
          stepLookupSender_cases taken
        · rw [own rfl]
          exact .of_silent (by simp)
        · have silent := unread known (by simp [ChatCall.pastSend, picked])
          rw [own rfl]
          exact .early silent rfl
    | registerRequest other =>
        obtain rfl := Option.some.inj mine
        obtain ⟨_, _, _, -, -, rfl⟩ := stepRegisterRequest_cases taken
        rw [own rfl]
        exact .of_silent (by simp)
    | send other =>
        obtain rfl := Option.some.inj mine
        obtain ⟨earlier, _, _, _, known, registered, -, ⟨-, rfl⟩ | ⟨-, rfl⟩⟩ :=
          stepSend_cases taken
        · rw [own rfl]
          exact .of_silent (by simp)
        · have silent := unread known (by simp [ChatCall.pastSend, registered])
          rw [own rfl]
          exact .early silent rfl
    | recv other =>
        obtain rfl := Option.some.inj mine
        obtain ⟨earlier, _, _, known, awaiting,
          ⟨first, rest, -, -, rfl⟩ | ⟨first, rest, exit, -, -, exits, rfl⟩ |
            ⟨-, gone, -⟩⟩ := stepRecv_cases taken
        · rw [own rfl]
          exact .of_silent (by simp [awaiting])
        · rw [own rfl]
          intro response returned
          obtain rfl := CallPhase.returned.inj returned
          exact .inl ⟨exit, exits, rfl⟩
        · have listed := (attended other _ (view_of_found known)).listed
            (by simp [ChatCall.view, ChatCall.listening, awaiting])
          rw [gone] at listed
          cases listed
    | disconnect other =>
        obtain rfl := Option.some.inj mine
        obtain ⟨_, _, _, -, -, ⟨-, rfl⟩ | ⟨-, rfl⟩⟩ :=
          stepDisconnect_cases taken
        · rw [own rfl]
          exact .of_silent (by simp)
        · rw [own rfl]
          exact .of_silent (by simp)
    | _ => cases mine
  · rcases lookup_calls_foreign taken mine with same | ⟨event, offered⟩
    · exact responded call (same ▸ found)
    · rw [offered] at found
      obtain ⟨earlier, known, rfl⟩ := Option.map_eq_some_iff.mp found
      exact (responded earlier known).offer event

/-- A handler that has listened answers with what the loop makes of the events
it received; one that has not answers with an error. -/
theorem responded_run (run : (fleetManager app).Run history final) :
    ∀ call, final.calls.lookup id = some call → Responded id call := by
  induction run with
  | start =>
      intro call found
      cases found
  | next run taken ih => exact responded_step (attended_run run) ih taken

theorem bufferedLoop_of_prefix {content : String} {exit : BufferedExit}
    {events more : List RequestEvent} (inside : events <+: more)
    (exits : bufferedLoop content events = some exit) :
    bufferedLoop content more = some exit := by
  induction events generalizing content more with
  | nil => cases exits
  | cons event rest ih =>
      obtain ⟨later, rfl⟩ := inside
      cases event with
      | chunk chunk =>
          rw [List.cons_append, bufferedLoop]
          exact ih (List.prefix_append rest later) exits
      | done done => exact exits
      | error error => exact exits

end JwSwarm.FleetManager
