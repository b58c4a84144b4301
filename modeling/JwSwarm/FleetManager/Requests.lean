import JwSwarm.FleetManager.Steps

namespace JwSwarm.FleetManager

open Data Proto Transition Machine FleetState

/-! The life of a request: what one step can do to the pending table and to the
handlers, and the dispatch that the history of a run records. -/

variable {app : AppState} {history : History FleetState Event}
variable {before after final : FleetState} {event : Event}
variable {id : RequestId} {tunnel : TunnelId} {task : Tunnel} {msg : Message}

private theorem pending_handleMessage {registry : Registry}
    {session : Option Session} {now : ℕ} :
    (handleMessage app registry tunnel session now msg).registry.pending =
      registry.pending := by
  cases msg with
  | heartbeat heartbeat =>
      rw [handleMessage, registry_handleHeartbeat]
      exact Registry.pending_modifyNode ..
  | modelStatus status => exact Registry.pending_modifyNode ..
  | scheduleState schedule => exact Registry.pending_modifyNode ..
  | _ => rfl

theorem pending_stepMessage :
    (stepMessage app before tunnel task msg).registry.pending =
      before.registry.pending := by
  rw [registry_stepMessage, pending_handleMessage]

theorem pending_stepClose :
    (stepClose before tunnel task).registry.pending =
      before.registry.pending := by
  unfold stepClose
  cases task.session with
  | none => rfl
  | some session => rfl

theorem pending_completeRequest_le {registry : Registry} {other : RequestId}
    {entry : PendingMeta}
    (found : (registry.completeRequest other).pending.lookup id = some entry) :
    registry.pending.lookup id = some entry := by
  rw [Registry.lookup_completeRequest] at found
  split at found
  · cases found
  · exact found

theorem pending_step {entry : PendingMeta}
    (taken : step app before event = some after)
    (found : after.registry.pending.lookup id = some entry) :
    before.registry.pending.lookup id = some entry ∨
      ∃ call nodeId sender, event = .registerRequest id ∧
        before.calls.lookup id = some call ∧
        call.phase = .addressed nodeId sender ∧
        entry = { tx := id, model := call.model, nodeId } := by
  cases event with
  | receive tunnel frame =>
      left
      obtain ⟨task, -, -, -, ⟨msg, -, rfl⟩ | ⟨-, rfl⟩ | ⟨-, rfl⟩⟩ :=
        stepReceive_cases taken
      · rwa [pending_stepMessage] at found
      · rwa [pending_stepClose] at found
      · exact found
  | request id body nodes =>
      obtain ⟨-, -, rfl⟩ := stepRequest_cases taken
      exact .inl found
  | lookupSender id =>
      obtain ⟨_, _, _, -, -, rfl, -⟩ := stepLookupSender_cases taken
      exact .inl found
  | registerRequest other =>
      obtain ⟨call, nodeId, sender, known, addressed, rfl⟩ :=
        stepRegisterRequest_cases taken
      have looked := Registry.lookup_registerRequest before.registry other
        call.model nodeId other id
      by_cases same : id = other
      · subst same
        rw [looked, if_pos rfl] at found
        exact .inr ⟨call, nodeId, sender, rfl, known, addressed,
          (Option.some.inj found).symm⟩
      · rw [looked, if_neg same] at found
        exact .inl found
  | send id =>
      obtain ⟨_, _, _, _, -, -, -, ⟨-, rfl⟩ | ⟨-, rfl⟩⟩ := stepSend_cases taken
      · exact .inl found
      · exact .inl (pending_completeRequest_le found)
  | recv id =>
      obtain ⟨_, _, _, -, -,
        ⟨_, _, -, -, rfl⟩ | ⟨_, _, _, -, -, -, rfl⟩ | ⟨-, -, _, rfl⟩⟩ :=
        stepRecv_cases taken
      · exact .inl found
      · exact .inl (pending_completeRequest_le found)
      · exact .inl found
  | disconnect id =>
      obtain ⟨_, _, _, -, -, ⟨-, rfl⟩ | ⟨-, rfl⟩⟩ := stepDisconnect_cases taken
      · exact .inl (pending_completeRequest_le found)
      · exact .inl found
  | _ =>
      rw [(background_step taken rfl rfl).2] at found
      exact .inl found

theorem pending_tx (run : (fleetManager app).Run history final)
    {entry : PendingMeta}
    (found : final.registry.pending.lookup id = some entry) :
    entry.tx = id := by
  induction run with
  | start => simp [fleetManager] at found
  | next run taken ih =>
      rcases pending_step taken found with earlier |
        ⟨_, _, _, -, -, -, rfl⟩
      · exact ih earlier
      · rfl

namespace ChatCall

def events (call : ChatCall) : List RequestEvent :=
  call.received ++ call.inbox

def pastSend (call : ChatCall) : Bool :=
  match call.phase with
  | .picked _ | .addressed _ _ | .registered _ _ => false
  | .awaiting _ _ | .returned _ | .abandoned => true

structure Grows (old new : ChatCall) : Prop where
  events : old.events <+: new.events
  pastSend : old.pastSend = true → new.pastSend = true

theorem Grows.refl (call : ChatCall) : Grows call call :=
  ⟨List.prefix_refl _, fun past => past⟩

theorem Grows.offer (call : ChatCall) (event : RequestEvent) :
    Grows call (call.offer event) := by
  unfold ChatCall.offer
  split
  · refine ⟨⟨[event], ?_⟩, fun past => past⟩
    exact List.append_assoc ..
  · exact .refl call

end ChatCall

theorem grows_own {calls : AList fun _ : RequestId => ChatCall}
    {old new call : ChatCall} (known : calls.lookup id = some old)
    (grows : old.Grows new) (found : calls.lookup id = some call) :
    ∃ grown, (calls.insert id new).lookup id = some grown ∧
      call.Grows grown := by
  obtain rfl := Option.some.inj (known.symm.trans found)
  exact ⟨new, AList.lookup_insert _, grows⟩

theorem lookup_calls_foreign (taken : step app before event = some after)
    (foreign : event.caller ≠ some id) :
    after.calls.lookup id = before.calls.lookup id ∨
      ∃ delivered, after.calls.lookup id =
        (before.calls.lookup id).map fun call => call.offer delivered := by
  cases receives : event.isReceive with
  | true =>
      cases event with
      | receive tunnel frame =>
          obtain ⟨task, -, -, -, ⟨msg, -, rfl⟩ | ⟨-, rfl⟩ | ⟨-, rfl⟩⟩ :=
            stepReceive_cases taken
          · rw [calls_stepMessage]
            cases (handleMessage app before.registry tunnel task.session
                before.clock msg).delivered with
            | none => exact .inl rfl
            | some delivered =>
                rw [lookup_deliver]
                split
                · exact .inr ⟨delivered.2, rfl⟩
                · exact .inl rfl
          · unfold stepClose
            cases task.session with
            | none => exact .inl rfl
            | some session => exact .inl rfl
          · exact .inl rfl
      | _ => cases receives
  | false =>
      cases own : event.caller with
      | none => exact .inl (by rw [(background_step taken own receives).1])
      | some other =>
          have apart : id ≠ other := by
            rintro rfl
            exact foreign own
          left
          cases event with
          | request caller body nodes =>
              obtain rfl := Option.some.inj own
              obtain ⟨-, -, rfl⟩ := stepRequest_cases taken
              exact AList.lookup_insert_ne apart
          | lookupSender caller =>
              obtain rfl := Option.some.inj own
              obtain ⟨_, _, _, -, -, rfl, -⟩ := stepLookupSender_cases taken
              exact AList.lookup_insert_ne apart
          | registerRequest caller =>
              obtain rfl := Option.some.inj own
              obtain ⟨_, _, _, -, -, rfl⟩ := stepRegisterRequest_cases taken
              exact AList.lookup_insert_ne apart
          | send caller =>
              obtain rfl := Option.some.inj own
              obtain ⟨_, _, _, _, -, -, -, ⟨-, rfl⟩ | ⟨-, rfl⟩⟩ :=
                stepSend_cases taken
              all_goals exact AList.lookup_insert_ne apart
          | recv caller =>
              obtain rfl := Option.some.inj own
              obtain ⟨_, _, _, -, -,
                ⟨_, _, -, -, rfl⟩ | ⟨_, _, _, -, -, -, rfl⟩ |
                  ⟨-, -, _, rfl⟩⟩ := stepRecv_cases taken
              all_goals exact AList.lookup_insert_ne apart
          | disconnect caller =>
              obtain rfl := Option.some.inj own
              obtain ⟨_, _, _, -, -, ⟨-, rfl⟩ | ⟨-, rfl⟩⟩ :=
                stepDisconnect_cases taken
              all_goals exact AList.lookup_insert_ne apart
          | _ => cases own

theorem calls_step {call : ChatCall}
    (taken : step app before event = some after)
    (found : before.calls.lookup id = some call) :
    ∃ grown, after.calls.lookup id = some grown ∧ call.Grows grown := by
  by_cases own : event.caller = some id
  · cases event with
    | request other body nodes =>
        obtain rfl := Option.some.inj own
        obtain ⟨fresh, -, -⟩ := stepRequest_cases taken
        cases fresh.symm.trans found
    | lookupSender other =>
        obtain rfl := Option.some.inj own
        obtain ⟨old, nodeId, phase, known, picked, rfl, -⟩ :=
          stepLookupSender_cases taken
        refine grows_own known ⟨List.prefix_refl _, fun past => ?_⟩ found
        simp [ChatCall.pastSend, picked] at past
    | registerRequest other =>
        obtain rfl := Option.some.inj own
        obtain ⟨old, nodeId, sender, known, addressed, rfl⟩ :=
          stepRegisterRequest_cases taken
        refine grows_own known ⟨List.prefix_refl _, fun past => ?_⟩ found
        simp [ChatCall.pastSend, addressed] at past
    | send other =>
        obtain rfl := Option.some.inj own
        obtain ⟨old, _, _, _, known, -, -, ⟨-, rfl⟩ | ⟨-, rfl⟩⟩ :=
          stepSend_cases taken
        all_goals
          exact grows_own known ⟨List.prefix_refl _, fun _ => rfl⟩ found
    | recv other =>
        obtain rfl := Option.some.inj own
        obtain ⟨old, nodeId, sender, known, awaiting, outcome⟩ :=
          stepRecv_cases taken
        rcases outcome with ⟨event, rest, inbox, -, rfl⟩ |
          ⟨event, rest, exit, inbox, -, -, rfl⟩ | ⟨-, -, response, rfl⟩
        · refine grows_own known ⟨?_, fun past => past⟩ found
          simp [ChatCall.events, inbox]
        · refine grows_own known ⟨?_, fun _ => rfl⟩ found
          simp [ChatCall.events, inbox]
        · exact grows_own known ⟨List.prefix_refl _, fun _ => rfl⟩ found
    | disconnect other =>
        obtain rfl := Option.some.inj own
        obtain ⟨old, _, _, known, -, ⟨-, rfl⟩ | ⟨-, rfl⟩⟩ :=
          stepDisconnect_cases taken
        all_goals
          exact grows_own known ⟨List.prefix_refl _, fun _ => rfl⟩ found
    | _ => cases own
  · rcases lookup_calls_foreign taken own with same | ⟨delivered, offered⟩
    · exact ⟨call, same.trans found, .refl call⟩
    · rw [found] at offered
      exact ⟨call.offer delivered, offered, .offer call delivered⟩

def FleetState.dispatches (state : FleetState) (id : RequestId) :
    Event → Option (NodeId × TunnelId)
  | .send other =>
      if other = id then
        (state.calls.lookup id).bind fun call =>
          match call.phase with
          | .registered nodeId sender =>
              if state.tunnels[sender]?.any Tunnel.receiving then
                some (nodeId, sender)
              else none
          | _ => none
      else none
  | _ => none

def dispatch (history : History FleetState Event) (id : RequestId) :
    Option (NodeId × TunnelId) :=
  history.findSome? fun taken => taken.1.dispatches id taken.2

theorem dispatch_concat :
    dispatch (history ++ [(before, event)]) id =
      (dispatch history id).or (before.dispatches id event) := by
  simp [dispatch, List.findSome?_append]

theorem send_of_dispatches {target : NodeId × TunnelId}
    (sends : before.dispatches id event = some target) : event = .send id := by
  cases event with
  | send other =>
      simp only [dispatches] at sends
      split at sends
      · next same => rw [same]
      · cases sends
  | _ => cases sends

theorem step_of_dispatches {target : NodeId × TunnelId}
    (taken : step app before event = some after)
    (sends : before.dispatches id event = some target) :
    ∃ call task, before.calls.lookup id = some call ∧
      call.phase = .registered target.1 target.2 ∧
      before.tunnels[target.2]? = some task ∧
      after = (before.setTunnel target.2 { task with
        outbox := task.outbox ++ [.promptDispatch {
          requestId := id, model := call.model
          payload := call.payload }] }).setCall id { call with
          phase := .awaiting target.1 target.2
          created := before.clock / 1000 } := by
  obtain rfl := send_of_dispatches sends
  obtain ⟨call, nodeId, sender, task, known, registered, found, outcome⟩ :=
    stepSend_cases taken
  simp only [dispatches, known, registered, found, if_true, Option.bind_some,
    Option.any_some] at sends
  rcases outcome with ⟨receiving, rfl⟩ | ⟨ended, rfl⟩
  · rw [if_pos receiving] at sends
    cases sends
    exact ⟨call, task, known, registered, found, rfl⟩
  · rw [ended] at sends
    cases sends

theorem pastSend_of_dispatch (run : (fleetManager app).Run history final)
    (dispatched : (dispatch history id).isSome) :
    ∃ call, final.calls.lookup id = some call ∧ call.pastSend = true := by
  induction run with
  | start => cases dispatched
  | next run taken ih =>
      rw [dispatch_concat, Option.isSome_or, Bool.or_eq_true] at dispatched
      rcases dispatched with earlier | now
      · obtain ⟨call, found, past⟩ := ih earlier
        obtain ⟨grown, known, grows⟩ := calls_step taken found
        exact ⟨grown, known, grows.pastSend past⟩
      · obtain ⟨target, sends⟩ := Option.isSome_iff_exists.mp now
        obtain ⟨call, task, -, -, -, rfl⟩ := step_of_dispatches taken sends
        exact ⟨_, AList.lookup_insert _, rfl⟩

end JwSwarm.FleetManager
