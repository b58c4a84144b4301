import JwSwarm.FleetManager.Requests

namespace JwSwarm.FleetManager

open Data Proto Transition Machine FleetState

/-! Requests whose tunnel is gone: the disconnect path leaves the pending table
alone, so the requests dispatched down a tunnel outlive it. -/

variable {app : AppState} {history : History FleetState Event}
variable {before after final : FleetState} {event : Event}
variable {id : RequestId} {tunnel : TunnelId} {task : Tunnel} {msg : Message}

namespace FleetState

/-- The read loop is over, and with it the disconnect path up to `drop(tx)`. -/
def hasEnded (state : FleetState) (tunnel : TunnelId) : Bool :=
  state.tunnels[tunnel]?.any fun task => !(task.phase == .reading)

def isAnswered (state : FleetState) (id : RequestId) : Bool :=
  (state.calls.lookup id).any fun call =>
    call.events.any RequestEvent.isTerminal

def isWaiting (state : FleetState) (id : RequestId) : Bool :=
  (state.registry.pending.lookup id).isSome && !state.isAnswered id

end FleetState

/-- No request waits for events of a tunnel that has ended. -/
def NoDeadWait (history : History FleetState Event) (state : FleetState) :
    Prop :=
  ∀ id nodeId tunnel, dispatch history id = some (nodeId, tunnel) →
    state.hasEnded tunnel = true → state.isWaiting id = false

/-- A read loop ends only when no request dispatched down the tunnel waits, and
no waiting request is handed to the sender of a tunnel that has ended. -/
def EndsDrained (history : History FleetState Event) (state : FleetState) :
    Event → Prop
  | .receive tunnel frame =>
      frame.ends = true → ∀ id nodeId,
        dispatch history id = some (nodeId, tunnel) →
        state.isWaiting id = false
  | .send id =>
      ∀ nodeId tunnel,
        state.dispatches id (.send id) = some (nodeId, tunnel) →
        state.hasEnded tunnel = true → state.isWaiting id = false
  | _ => True

theorem hasEnded_eq_standing :
    before.hasEnded tunnel =
      before.standings[tunnel]?.any fun standing => !standing.1 := by
  simp only [hasEnded, standings, List.getElem?_map, Option.any_map]
  rfl

theorem hasEnded_step (taken : step app before event = some after)
    (ended : after.hasEnded tunnel = true) :
    before.hasEnded tunnel = true ∨
      ∃ frame, event = .receive tunnel frame ∧ frame.ends = true := by
  rw [hasEnded_eq_standing] at ended
  cases quiet : event.isReceive with
  | false =>
      obtain ⟨joined, standings, blank⟩ := standings_quiet taken quiet
      rw [standings, List.getElem?_append] at ended
      left
      rw [hasEnded_eq_standing]
      split at ended
      · exact ended
      · rcases blank with rfl | rfl
        · cases ended
        · simp only [List.getElem?_singleton] at ended
          split at ended
          · cases ended
          · cases ended
  | true =>
      cases event with
      | receive source frame =>
          obtain ⟨task, found, reading, -, outcome⟩ := stepReceive_cases taken
          by_cases here : source = tunnel
          · subst here
            rcases outcome with ⟨msg, rfl, rfl⟩ | ⟨ends, rfl⟩ | ⟨-, rfl⟩
            · rw [standings_stepMessage reading, List.getElem?_set] at ended
              split at ended
              · split at ended
                · cases ended
                · cases ended
              · exact absurd rfl ‹_›
            · exact .inr ⟨frame, rfl, ends⟩
            · exact .inl (hasEnded_eq_standing.trans ended)
          · left
            rw [hasEnded_eq_standing]
            rcases outcome with ⟨msg, rfl, rfl⟩ | ⟨ends, rfl⟩ | ⟨-, rfl⟩
            · rwa [standings_stepMessage reading,
                List.getElem?_set_ne here] at ended
            · rwa [standings_stepClose, List.getElem?_set_ne here] at ended
            · exact ended
      | _ => cases quiet

private theorem isAnswered_step (taken : step app before event = some after)
    (answered : before.isAnswered id = true) :
    after.isAnswered id = true := by
  obtain ⟨call, found, terminal⟩ := (Option.any_eq_true _ _).mp answered
  obtain ⟨grown, known, grows⟩ := calls_step taken found
  obtain ⟨last, inside, isTerminal⟩ := List.any_eq_true.mp terminal
  apply (Option.any_eq_true _ _).mpr
  refine ⟨grown, known, List.any_eq_true.mpr ⟨last, ?_, isTerminal⟩⟩
  exact grows.events.subset inside

private theorem isWaiting_step (taken : step app before event = some after)
    (waiting : after.isWaiting id = true) :
    before.isWaiting id = true ∨
      ∃ call, before.calls.lookup id = some call ∧ call.pastSend = false := by
  obtain ⟨pending, unanswered⟩ := (Bool.and_eq_true _ _).mp waiting
  obtain ⟨entry, found⟩ := Option.isSome_iff_exists.mp pending
  rcases pending_step taken found with earlier |
    ⟨call, nodeId, sender, -, known, addressed, -⟩
  · left
    have still : before.isAnswered id = false := by
      by_contra answered
      have later := isAnswered_step taken (by simpa using answered)
      rw [later] at unanswered
      cases unanswered
    simp [isWaiting, earlier, still]
  · right
    exact ⟨call, known, by simp [ChatCall.pastSend, addressed]⟩

private theorem isWaiting_step_of_dispatch
    (run : (fleetManager app).Run history before)
    (taken : step app before event = some after)
    (dispatched : (dispatch history id).isSome)
    (waiting : after.isWaiting id = true) : before.isWaiting id = true := by
  rcases isWaiting_step taken waiting with earlier | ⟨call, found, early⟩
  · exact earlier
  · obtain ⟨sent, known, past⟩ := pastSend_of_dispatch run dispatched
    obtain rfl := Option.some.inj (found.symm.trans known)
    rw [early] at past
    cases past

private theorem hasEnded_stepClose
    (found : before.tunnels[tunnel]? = some task) :
    (stepClose before tunnel task).hasEnded tunnel = true := by
  have inside : tunnel < before.tunnels.length :=
    (List.getElem?_eq_some_iff.mp found).1
  rw [hasEnded_eq_standing, standings_stepClose, List.getElem?_set_self]
  · rfl
  · simpa [standings] using inside

private theorem isWaiting_stepClose :
    (stepClose before tunnel task).isWaiting id = before.isWaiting id := by
  unfold stepClose
  cases task.session with
  | none => rfl
  | some session => rfl

theorem send_keeps (tunnel : TunnelId) {target : NodeId × TunnelId}
    (taken : step app before event = some after)
    (sends : before.dispatches id event = some target) :
    after.isWaiting id = before.isWaiting id ∧
      (before.hasEnded tunnel = true → after.hasEnded tunnel = true) := by
  constructor
  · obtain ⟨call, task, known, -, -, rfl⟩ := step_of_dispatches taken sends
    simp [isWaiting, isAnswered, setCall, setTunnel, known, ChatCall.events]
  · intro ended
    obtain rfl := send_of_dispatches sends
    obtain ⟨joined, standings, -⟩ := standings_quiet taken rfl
    rw [hasEnded_eq_standing] at ended ⊢
    obtain ⟨standing, found, ended⟩ := (Option.any_eq_true _ _).mp ended
    have inside := (List.getElem?_eq_some_iff.mp found).1
    rw [standings, List.getElem?_append_left inside, found]
    exact ended

private theorem noDeadWait_kept (run : (fleetManager app).Run history before)
    (holds : NoDeadWait history before)
    (drained : EndsDrained history before event)
    (taken : step app before event = some after) :
    NoDeadWait (history ++ [(before, event)]) after := by
  intro id nodeId tunnel dispatched ended
  rw [dispatch_concat] at dispatched
  by_contra waiting
  have waiting : after.isWaiting id = true := by simpa using waiting
  cases earlier : dispatch history id with
  | some target =>
      obtain rfl : target = (nodeId, tunnel) := by simpa [earlier] using dispatched
      have waited := isWaiting_step_of_dispatch run taken
        (by rw [earlier]; rfl) waiting
      rcases hasEnded_step taken ended with already | ⟨frame, rfl, ends⟩
      · have alive := holds id nodeId tunnel earlier already
        rw [waited] at alive
        cases alive
      · have alive := drained ends id nodeId earlier
        rw [waited] at alive
        cases alive
  | none =>
      have sends : before.dispatches id event = some (nodeId, tunnel) := by
        simpa [earlier] using dispatched
      obtain rfl := send_of_dispatches sends
      rcases hasEnded_step taken ended with already | ⟨frame, same, -⟩
      · have alive := drained nodeId tunnel sends already
        rw [← (send_keeps tunnel taken sends).1, waiting] at alive
        cases alive
      · cases same

private theorem noDeadWait_step_iff
    (run : (fleetManager app).Run history before)
    (holds : NoDeadWait history before)
    (taken : step app before event = some after) :
    NoDeadWait (history ++ [(before, event)]) after ↔
      EndsDrained history before event := by
  refine ⟨fun kept => ?_, fun drained => noDeadWait_kept run holds drained taken⟩
  cases event with
  | receive tunnel frame =>
      intro ends id nodeId dispatched
      obtain ⟨task, found, -, -, ⟨msg, rfl, -⟩ | ⟨-, rfl⟩ | ⟨skipped, -⟩⟩ :=
        stepReceive_cases taken
      · cases ends
      · rw [← isWaiting_stepClose]
        refine kept id nodeId tunnel ?_ (hasEnded_stepClose found)
        rw [dispatch_concat, dispatched]
        rfl
      · rcases skipped with rfl | rfl
        · cases ends
        · cases ends
  | send id =>
      intro nodeId tunnel sends ended
      obtain ⟨same, stays⟩ := send_keeps tunnel taken sends
      rw [← same]
      refine kept id nodeId tunnel ?_ (stays ended)
      rw [dispatch_concat, sends]
      cases earlier : dispatch history id with
      | none => rfl
      | some target =>
          -- a handler that has sent once is past its send
          obtain ⟨call, _, found, registered, -, -⟩ :=
            step_of_dispatches taken sends
          obtain ⟨sent, known, past⟩ :=
            pastSend_of_dispatch run (by rw [earlier]; rfl)
          obtain rfl := Option.some.inj (found.symm.trans known)
          simp [ChatCall.pastSend, registered] at past
  | _ => trivial

/-- No request waits on a tunnel that has ended, all along a run, exactly when
every step of the run meets the guard. -/
theorem noDeadWait_along_iff (run : (fleetManager app).Run history final) :
    (fleetManager app).Along NoDeadWait history ↔
      Guarded EndsDrained history := by
  refine Machine.Run.along_iff_guarded ?_ ?_ run
  · intro id nodeId tunnel dispatched
    cases dispatched
  · intro history before event after run holds taken
    exact noDeadWait_step_iff run holds taken

theorem noDeadWait_along_iff_answered :
    ∃ history final, (fleetManager bareApp).Run history final ∧
      dispatch history "r" = some ("node", 0) ∧
      final.hasEnded 0 = true ∧ final.isWaiting "r" = false ∧
      ((fleetManager bareApp).Along NoDeadWait history ↔
        Guarded EndsDrained history) := by
  obtain ⟨history, final, run, observed⟩ :=
    (fleetManager bareApp).exists_run_of_trace
      (dispatchEvents "node" ++
        [.receive 0 (.text (.done ⟨"r", ⟨1, 1, 2⟩⟩)), .receive 0 .close])
      (fun outcome => dispatch outcome.1 "r" = some ("node", 0) ∧
        outcome.2.hasEnded 0 = true ∧ outcome.2.isWaiting "r" = false)
      (by decide +kernel)
  obtain ⟨dispatched, ended, answered⟩ := of_decide_eq_true observed
  exact ⟨history, final, run, dispatched, ended, answered,
    noDeadWait_along_iff run⟩

/-- The node leaves after it got the prompt. Its tunnel task runs to its end,
and the client's stream still waits. -/
theorem closed_tunnel_leaves_client_waiting :
    ∃ history final, (fleetManager bareApp).Run history final ∧
      dispatch history "r" = some ("node", 0) ∧
      final.tunnels[0]?.map Tunnel.phase = some .finished ∧
      final.isWaiting "r" = true ∧ ¬ NoDeadWait history final := by
  obtain ⟨history, final, run, observed⟩ :=
    (fleetManager bareApp).exists_run_of_trace
      (dispatchEvents "node" ++
        [.write 0 true, .receive 0 .close, .writerEnd 0, .finish 0])
      (fun outcome => dispatch outcome.1 "r" = some ("node", 0) ∧
        outcome.2.tunnels[0]?.map Tunnel.phase = some .finished ∧
        outcome.2.hasEnded 0 = true ∧ outcome.2.isWaiting "r" = true)
      (by decide +kernel)
  obtain ⟨dispatched, finished, ended, waiting⟩ := of_decide_eq_true observed
  refine ⟨history, final, run, dispatched, finished, waiting, fun holds => ?_⟩
  rw [holds "r" "node" 0 dispatched ended] at waiting
  cases waiting

end JwSwarm.FleetManager
