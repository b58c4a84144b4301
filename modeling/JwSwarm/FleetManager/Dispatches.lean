import JwSwarm.FleetManager.Requests

namespace JwSwarm.FleetManager

open Data Proto Transition Machine FleetState

/-! How often the prompt of a request is handed to a tunnel. -/

def isPrompt (id : RequestId) : Message → Bool
  | .promptDispatch prompt => prompt.requestId == id
  | _ => false

def promptCount (id : RequestId) (frames : List Message) : ℕ :=
  frames.countP (isPrompt id)

namespace FleetState

def prompts (state : FleetState) (id : RequestId) : ℕ :=
  (state.tunnels.map fun task => promptCount id task.outbox).sum

def hasSent (state : FleetState) (id : RequestId) : Bool :=
  (state.calls.lookup id).any ChatCall.pastSend

def dispatchesTo (state : FleetState) (id : RequestId) (event : Event) : Bool :=
  (state.dispatches id event).isSome

end FleetState

def dispatchCount (history : History FleetState Event) (id : RequestId) : ℕ :=
  history.countP fun taken => taken.1.dispatchesTo id taken.2

variable {app : AppState} {history : History FleetState Event}
variable {before after final state : FleetState} {event : Event}
variable {id : RequestId} {tunnel : TunnelId} {task : Tunnel}
variable {frames outbox : List Message}

theorem promptCount_append (left right : List Message) :
    promptCount id (left ++ right) =
      promptCount id left + promptCount id right :=
  List.countP_append

private theorem promptCount_sent {registry : Registry}
    {session : Option Session} {now : ℕ} (msg : Message) :
    promptCount id
      (handleMessage app registry tunnel session now msg).sent = 0 := by
  cases msg with
  | heartbeat heartbeat =>
      simp only [handleMessage, handleHeartbeat]
      cases session with
      | none => rfl
      | some own =>
          simp only
          split
          · rfl
          · rfl
  | _ => rfl

theorem prompts_set {changed : Tunnel}
    (found : state.tunnels[tunnel]? = some task)
    (tunnels : after.tunnels = state.tunnels.set tunnel changed) :
    after.prompts id + promptCount id task.outbox =
      state.prompts id + promptCount id changed.outbox := by
  rw [prompts, tunnels]
  exact sum_map_set_add (fun task => promptCount id task.outbox) found

theorem prompts_of_outbox {changed : Tunnel}
    (found : state.tunnels[tunnel]? = some task)
    (tunnels : after.tunnels = state.tunnels.set tunnel changed)
    (same : promptCount id changed.outbox = promptCount id task.outbox) :
    after.prompts id = state.prompts id := by
  have moved := @prompts_set _ _ id _ _ _ found tunnels
  omega

theorem prompts_write {msg : Message}
    (taken : stepWrite state tunnel true = some after)
    (found : state.tunnels[tunnel]? = some task)
    (next : task.outbox.head? = some msg) :
    after.prompts id + promptCount id [msg] = state.prompts id := by
  simp only [stepWrite, found, Option.bind_eq_bind, Option.bind_some,
    Option.bind_eq_some_iff, Option.guard_eq_some'] at taken
  obtain ⟨-, -, taken⟩ := taken
  cases outbox : task.outbox with
  | nil => simp [outbox] at next
  | cons first rest =>
      obtain rfl : first = msg := by simpa [outbox] using next
      simp only [outbox, if_true] at taken
      obtain rfl := Option.some.inj taken
      have moved := @prompts_set (state.setTunnel tunnel
        { task with outbox := rest }) _ id _ _ _ found rfl
      have split : promptCount id task.outbox =
          promptCount id [first] + promptCount id rest := by
        rw [outbox]
        exact promptCount_append [first] rest
      simp only at moved
      omega

private theorem prompts_write_le {succeeds : Bool}
    (taken : stepWrite state tunnel succeeds = some after) :
    after.prompts id ≤ state.prompts id := by
  cases succeeds with
  | true =>
      obtain ⟨task, _, _, found, -, -⟩ := stepWrite_cases taken
      cases next : task.outbox.head? with
      | none =>
          simp only [stepWrite, found, Option.bind_eq_bind, Option.bind_some,
            Option.bind_eq_some_iff, List.head?_eq_none_iff.mp next] at taken
          obtain ⟨-, -, taken⟩ := taken
          cases taken
      | some msg =>
          have moved := @prompts_write _ _ id _ _ _ taken found next
          omega
  | false =>
      simp only [stepWrite, Option.bind_eq_bind, Option.bind_eq_some_iff]
        at taken
      obtain ⟨task, found, -, -, taken⟩ := taken
      split at taken
      · cases taken
      · obtain rfl := Option.some.inj taken
        have moved := @prompts_set (state.setTunnel tunnel
          { task with outbox := [], receiving := false }) _ id _ _ _ found rfl
        simp only [promptCount, List.countP_nil] at moved
        omega

private theorem prompts_sent {call : ChatCall} {other : RequestId}
    {nodeId : NodeId} (known : state.calls.lookup other = some call)
    (registered : call.phase = .registered nodeId tunnel)
    (found : state.tunnels[tunnel]? = some task)
    (receiving : task.receiving = true) :
    ((state.setTunnel tunnel { task with
      outbox := task.outbox ++ [.promptDispatch {
        requestId := other, model := call.model
        payload := call.payload }] }).setCall other { call with
          phase := .awaiting nodeId tunnel
          created := state.clock / 1000 }).prompts id =
      state.prompts id + (state.dispatchesTo id (.send other)).toNat := by
  have moved := @prompts_set _ _ id _ _ _ found
    (show ((state.setTunnel tunnel { task with
      outbox := task.outbox ++ [.promptDispatch {
        requestId := other, model := call.model
        payload := call.payload }] }).setCall other { call with
          phase := .awaiting nodeId tunnel
          created := state.clock / 1000 }).tunnels = _ from rfl)
  rw [promptCount_append] at moved
  by_cases same : other = id
  · subst same
    have sends : state.dispatchesTo other (.send other) = true := by
      simp [dispatchesTo, dispatches, known, registered, found, receiving]
    have one : promptCount other [.promptDispatch {
        requestId := other, model := call.model
        payload := call.payload }] = 1 := by
      simp [promptCount, isPrompt]
    rw [sends, Bool.toNat_true]
    omega
  · have silent : state.dispatchesTo id (.send other) = false := by
      simp [dispatchesTo, dispatches, same]
    have none : promptCount id [.promptDispatch {
        requestId := other, model := call.model
        payload := call.payload }] = 0 := by
      simp [promptCount, isPrompt, same]
    rw [silent, Bool.toNat_false]
    omega

theorem prompts_step (taken : step app before event = some after) :
    after.prompts id ≤
      before.prompts id + (before.dispatchesTo id event).toNat := by
  have kept (same : after.prompts id = before.prompts id) :
      after.prompts id ≤
        before.prompts id + (before.dispatchesTo id event).toNat := by
    omega
  cases event with
  | receive tunnel frame =>
      obtain ⟨task, found, -, -, ⟨msg, rfl, rfl⟩ | ⟨-, rfl⟩ | ⟨-, rfl⟩⟩ :=
        stepReceive_cases taken
      · apply kept
        refine prompts_of_outbox found
          ((tunnels_deliver _).trans rfl) ?_
        dsimp only
        split
        · rw [promptCount_append, promptCount_sent]
          rfl
        · rfl
      · apply kept
        unfold stepClose
        cases task.session with
        | none => exact prompts_of_outbox found rfl rfl
        | some session => exact prompts_of_outbox found rfl rfl
      · exact kept rfl
  | connect =>
      obtain rfl := Option.some.inj taken
      apply kept
      simp [prompts, promptCount]
  | resume tunnel succeeds =>
      obtain ⟨task, _, _, _, found, -, rfl, -⟩ := stepResume_cases taken
      exact kept (prompts_of_outbox found rfl rfl)
  | write tunnel succeeds =>
      exact (prompts_write_le taken).trans (Nat.le_add_right _ _)
  | writerEnd tunnel =>
      obtain ⟨task, found, -, -, -, rfl⟩ := stepWriterEnd_cases taken
      exact kept (prompts_of_outbox found rfl rfl)
  | finish tunnel =>
      obtain ⟨task, found, -, -, rfl⟩ := stepFinish_cases taken
      exact kept (prompts_of_outbox found rfl rfl)
  | send other =>
      obtain ⟨call, nodeId, sender, task, known, registered, found,
        ⟨receiving, rfl⟩ | ⟨-, rfl⟩⟩ := stepSend_cases taken
      · exact Nat.le_of_eq (prompts_sent known registered found receiving)
      · exact kept rfl
  | runTask task succeeds =>
      obtain ⟨_, _, _, -, -, rfl⟩ := stepRunTask_cases taken
      exact kept rfl
  | request other body nodes =>
      obtain ⟨-, -, rfl⟩ := stepRequest_cases taken
      exact kept rfl
  | lookupSender other =>
      obtain ⟨_, _, _, -, -, rfl, -⟩ := stepLookupSender_cases taken
      exact kept rfl
  | registerRequest other =>
      obtain ⟨_, _, _, -, -, rfl⟩ := stepRegisterRequest_cases taken
      exact kept rfl
  | recv other =>
      obtain ⟨_, _, _, -, -,
        ⟨_, _, -, -, rfl⟩ | ⟨_, _, _, -, -, -, rfl⟩ | ⟨-, -, _, rfl⟩⟩ :=
        stepRecv_cases taken
      all_goals exact kept rfl
  | disconnect other =>
      obtain ⟨_, _, _, -, -, ⟨-, rfl⟩ | ⟨-, rfl⟩⟩ := stepDisconnect_cases taken
      all_goals exact kept rfl
  | tick elapsed =>
      obtain rfl := Option.some.inj taken
      exact kept rfl

theorem hasSent_step (taken : step app before event = some after)
    (sent : before.hasSent id = true) : after.hasSent id = true := by
  obtain ⟨call, found, past⟩ := (Option.any_eq_true _ _).mp sent
  obtain ⟨grown, known, grows⟩ := calls_step taken found
  exact (Option.any_eq_true _ _).mpr ⟨grown, known, grows.pastSend past⟩

theorem hasSent_le (taken : step app before event = some after) :
    (before.hasSent id).toNat ≤ (after.hasSent id).toNat := by
  cases sent : before.hasSent id with
  | true => rw [hasSent_step taken sent]
  | false => exact Nat.zero_le _

theorem hasSent_of_dispatches (taken : step app before event = some after)
    (sends : before.dispatchesTo id event = true) :
    before.hasSent id = false ∧ after.hasSent id = true := by
  obtain ⟨target, sends⟩ := Option.isSome_iff_exists.mp sends
  obtain ⟨call, task, known, registered, -, rfl⟩ :=
    step_of_dispatches taken sends
  constructor
  · simp [hasSent, known, ChatCall.pastSend, registered]
  · rw [hasSent, show FleetState.calls _ = _ from rfl]
    simp [setCall, ChatCall.pastSend]

/-- The prompt of a request is handed to one tunnel, once, and waits there until
it is written or dropped. -/
theorem dispatched_once (run : (fleetManager app).Run history final)
    (id : RequestId) :
    final.prompts id ≤ dispatchCount history id ∧
      dispatchCount history id ≤ (final.hasSent id).toNat := by
  induction run with
  | start => exact ⟨Nat.le_refl 0, Nat.zero_le _⟩
  | @next earlier before after event run taken ih =>
      have waiting := @prompts_step _ _ _ _ id taken
      have counted : dispatchCount (earlier ++ [(before, event)]) id =
          dispatchCount earlier id +
            (before.dispatchesTo id event).toNat := by
        rw [dispatchCount, List.countP_append]
        cases sends : before.dispatchesTo id event with
        | true => simp [sends, dispatchCount]
        | false => simp [sends, dispatchCount]
      rw [counted]
      refine ⟨by omega, ?_⟩
      cases sends : before.dispatchesTo id event with
      | true =>
          obtain ⟨unsent, sent⟩ := hasSent_of_dispatches taken sends
          rw [unsent] at ih
          simp only [sent, Bool.toNat_true, Bool.toNat_false] at ih ⊢
          omega
      | false =>
          cases sent : before.hasSent id with
          | true =>
              rw [hasSent_step taken sent]
              rw [sent] at ih
              simpa using ih.2
          | false =>
              rw [sent] at ih
              simp only [Bool.toNat_false] at ih ⊢
              omega

theorem dispatched_once_waiting :
    ∃ history final, (fleetManager bareApp).Run history final ∧
      final.prompts "r" = 1 ∧
      final.prompts "r" ≤ dispatchCount history "r" ∧
      dispatchCount history "r" ≤ (final.hasSent "r").toNat := by
  obtain ⟨history, final, run, observed⟩ :=
    (fleetManager bareApp).exists_run_of_trace (dispatchEvents "node")
      (fun outcome => outcome.2.prompts "r" = 1) (by decide +kernel)
  exact ⟨history, final, run, of_decide_eq_true observed,
    dispatched_once run "r"⟩

end JwSwarm.FleetManager
