import JwSwarm.FleetManager.Requests
import JwSwarm.FleetManager.Tasks

namespace JwSwarm.FleetManager

open Data Proto Transition Machine FleetState

/-! Delivery credit. Every `Done` frame received while its request is pending
spawns one delivery row and one ledger entry, whoever sent it and however often. -/

variable {app : AppState} {history : History FleetState Event}
variable {before after final : FleetState} {event : Event}
variable {id : RequestId} {nodeId : NodeId} {tunnel : TunnelId}

namespace Db

def deliveryCount (id : RequestId) (db : Db) : ℕ :=
  db.deliveries.countP fun row => row.requestId == id

def deliveryCredits (id : RequestId) (db : Db) : ℕ :=
  db.pointsLedger.countP fun row =>
    row.kind == "delivery" && row.sourceRef == id

end Db

namespace DbCall

private def delivers (id : RequestId) : DbCall → Bool
  | .recordDelivery requestId _ _ _ _ => requestId == id
  | _ => false

private def creditsDelivery (id : RequestId) : DbCall → Bool
  | .creditPoints _ kind _ sourceRef => kind == "delivery" && sourceRef == id
  | _ => false

end DbCall

/-! History words: the `Done` frames that find their request pending, and the
first terminal frame that the node of a dispatched request answers with. -/

def FleetState.accepts (state : FleetState) (id : RequestId) : Event → Bool
  | .receive _ (.text (.done done)) =>
      done.requestId == id && (state.registry.pending.lookup id).isSome
  | _ => false

def acceptedCount (history : History FleetState Event) (id : RequestId) : ℕ :=
  history.countP fun taken => taken.1.accepts id taken.2

/-- The request's prompt is on its way, and the frame is a terminal one for it
on a tunnel registered as the node. -/
def FleetState.answers (state : FleetState) (id : RequestId)
    (nodeId : NodeId) : Event → Option RequestEvent
  | .receive tunnel (.text (.done done)) =>
      if done.requestId = id ∧ state.sessionNode tunnel = some nodeId ∧
          (state.calls.lookup id).any ChatCall.pastSend then
        some (.done done)
      else none
  | .receive tunnel (.text (.error error)) =>
      if error.requestId = id ∧ state.sessionNode tunnel = some nodeId ∧
          (state.calls.lookup id).any ChatCall.pastSend then
        some (.error error)
      else none
  | _ => none

def firstAnswer (history : History FleetState Event) (id : RequestId)
    (nodeId : NodeId) : Option RequestEvent :=
  history.findSome? fun taken => taken.1.answers id nodeId taken.2

structure ExactlyOnce (history : History FleetState Event)
    (state : FleetState) : Prop where
  atMost : ∀ id, state.db.deliveryCount id ≤ 1 ∧
    state.db.deliveryCredits id ≤ 1
  once : state.tasks.flatten = [] → ∀ id nodeId tunnel done,
    dispatch history id = some (nodeId, tunnel) →
    firstAnswer history id nodeId = some (.done done) →
    state.db.deliveryCount id = 1 ∧ state.db.deliveryCredits id = 1

/-- A `Done` for a pending request is the first such; one for a request that is
no longer pending is not its node's first answer, unless an earlier `Done` was
credited. -/
def creditsOnce (history : History FleetState Event) (state : FleetState) :
    Event → Bool
  | .receive tunnel (.text (.done done)) =>
      if (state.registry.pending.lookup done.requestId).isSome then
        acceptedCount history done.requestId == 0
      else
        (dispatch history done.requestId).all fun target =>
          state.sessionNode tunnel != some target.1 ||
            (firstAnswer history done.requestId target.1).isSome ||
            acceptedCount history done.requestId != 0
  | _ => true

theorem acceptedCount_concat :
    acceptedCount (history ++ [(before, event)]) id =
      acceptedCount history id + if before.accepts id event then 1 else 0 := by
  simp [acceptedCount, List.countP_append, List.countP_singleton]

theorem firstAnswer_concat :
    firstAnswer (history ++ [(before, event)]) id nodeId =
      (firstAnswer history id nodeId).or (before.answers id nodeId event) := by
  simp [firstAnswer, List.findSome?_append]

private theorem tallies_deliveryCount (id : RequestId) :
    Tallies (Db.deliveryCount id) (DbCall.delivers id) where
  initial _ := rfl
  exec := by
    intro db now call next executed
    rw [Db.deliveryCount, (Db.rows_exec executed).1, List.countP_append]
    congr 1
    cases call with
    | recordDelivery requestId nodeId model usage latencyMs =>
        exact List.countP_singleton ..
    | _ => rfl
  unawaited credit := by
    unfold CapacityCredit.call
    split <;> rfl

private theorem tallies_deliveryCredits (id : RequestId) :
    Tallies (Db.deliveryCredits id) (DbCall.creditsDelivery id) where
  initial _ := rfl
  exec := by
    intro db now call next executed
    rw [Db.deliveryCredits, (Db.rows_exec executed).2, List.countP_append]
    congr 1
    cases call with
    | creditPoints nodeId kind points sourceRef =>
        exact List.countP_singleton ..
    | _ => rfl
  unawaited credit := by
    unfold CapacityCredit.call
    split <;> rfl

private theorem spawned_handleDone {registry : Registry}
    {session : Option Session} {done : Done} :
    ((handleDone app registry session done).spawned.flatten.countP
        (DbCall.delivers id) =
      if done.requestId == id && (registry.pending.lookup id).isSome then 1
      else 0) ∧
    ((handleDone app registry session done).spawned.flatten.countP
        (DbCall.creditsDelivery id) =
      if done.requestId == id && (registry.pending.lookup id).isSome then 1
      else 0) := by
  by_cases same : done.requestId = id
  · subst same
    simp only [handleDone, Registry.getPending]
    cases registry.pending.lookup done.requestId with
    | none => simp
    | some entry =>
        simp [deliveryTask, DbCall.delivers, DbCall.creditsDelivery]
  · simp only [handleDone, Registry.getPending]
    cases registry.pending.lookup done.requestId with
    | none => simp [same]
    | some entry =>
        simp [deliveryTask, DbCall.delivers, DbCall.creditsDelivery, same]

private theorem spawned_handleMessage {registry : Registry}
    {session : Option Session}
    {now : ℕ} {msg : Message} (other : ∀ done, msg ≠ .done done) :
    ∀ call ∈ (handleMessage app registry tunnel session now
        msg).spawned.flatten,
      call.delivers id = false ∧ call.creditsDelivery id = false := by
  cases msg with
  | done done => exact absurd rfl (other done)
  | register register =>
      simp [handleMessage, handleRegister, DbCall.delivers,
        DbCall.creditsDelivery]
  | heartbeat heartbeat => simp [handleMessage]
  | _ => intro call inside; cases inside

private theorem spawned_unaccepted (id : RequestId) (other : ∀ source done,
      event ≠ .receive source (.text (.done done))) :
    ∀ call ∈ (spawns app before event).flatten,
      call.delivers id = false ∧ call.creditsDelivery id = false := by
  cases event with
  | receive source frame =>
      cases frame with
      | text msg =>
          simp only [spawns]
          split
          · apply spawned_handleMessage
            rintro done rfl
            exact other source done rfl
          · intro call inside
            cases inside
      | close | readError | ended =>
          simp only [spawns, Inbound.ends, if_true, List.mem_flatten,
            List.mem_map]
          rintro call ⟨_, ⟨closed, -, rfl⟩, inside⟩
          obtain rfl := List.mem_singleton.mp inside
          exact ⟨rfl, rfl⟩
      | invalid | control => intro call inside; cases inside
  | _ => intro call inside; cases inside

private theorem spawned_delivery (id : RequestId)
    (taken : step app before event = some after) :
    (spawns app before event).flatten.countP (DbCall.delivers id) =
        (if before.accepts id event then 1 else 0) ∧
      (spawns app before event).flatten.countP (DbCall.creditsDelivery id) =
        if before.accepts id event then 1 else 0 := by
  by_cases other : ∀ source done, event ≠ .receive source (.text (.done done))
  · have none : ∀ call ∈ (spawns app before event).flatten, _ :=
      spawned_unaccepted id other
    have refused : before.accepts id event = false := by
      unfold accepts
      split
      · exact absurd rfl (other _ _)
      · rfl
    rw [refused]
    constructor
    · exact List.countP_eq_zero.mpr fun call inside => by
        simp [(none call inside).1]
    · exact List.countP_eq_zero.mpr fun call inside => by
        simp [(none call inside).2]
  · push Not at other
    obtain ⟨source, done, rfl⟩ := other
    have taken : stepReceive app before source (.text (.done done)) =
      some after := taken
    obtain ⟨task, found, -⟩ := stepReceive_cases taken
    simp only [spawns, found]
    exact spawned_handleDone

private theorem spawnedCount_eq_acceptedCount (id : RequestId)
    (run : (fleetManager app).Run history final) :
    spawnedCount app (DbCall.delivers id) history = acceptedCount history id ∧
      spawnedCount app (DbCall.creditsDelivery id) history =
        acceptedCount history id := by
  induction run with
  | start => exact ⟨rfl, rfl⟩
  | next run taken ih =>
      obtain ⟨delivers, credits⟩ := spawned_delivery id taken
      rw [spawnedCount_concat, spawnedCount_concat, acceptedCount_concat,
        ih.1, ih.2, delivers, credits]
      exact ⟨rfl, rfl⟩

structure AcceptedOnce (history : History FleetState Event) : Prop where
  atMost : ∀ id, acceptedCount history id ≤ 1
  once : ∀ id nodeId tunnel done,
    dispatch history id = some (nodeId, tunnel) →
    firstAnswer history id nodeId = some (.done done) →
    acceptedCount history id = 1

theorem answers_cases {answer : RequestEvent}
    (answers : before.answers id nodeId event = some answer) :
    (∃ call, before.calls.lookup id = some call ∧ call.pastSend = true) ∧
      ∀ done, answer = .done done → ∃ source,
        event = .receive source (.text (.done done)) ∧
        done.requestId = id ∧ before.sessionNode source = some nodeId := by
  unfold FleetState.answers at answers
  split at answers
  · next source done =>
      split at answers
      · next own =>
          obtain ⟨same, registered, past⟩ := own
          obtain rfl := Option.some.inj answers
          refine ⟨(Option.any_eq_true _ _).mp past, ?_⟩
          rintro _ ⟨⟩
          exact ⟨source, rfl, same, registered⟩
      · cases answers
  · next source error =>
      split at answers
      · next own =>
          obtain rfl := Option.some.inj answers
          refine ⟨(Option.any_eq_true _ _).mp own.2.2, ?_⟩
          rintro _ ⟨⟩
      · cases answers
  · cases answers

private theorem pastSend_of_firstAnswer
    (run : (fleetManager app).Run history final)
    (answered : (firstAnswer history id nodeId).isSome) :
    ∃ call, final.calls.lookup id = some call ∧ call.pastSend = true := by
  induction run with
  | start => cases answered
  | next run taken ih =>
      rw [firstAnswer_concat, Option.isSome_or, Bool.or_eq_true] at answered
      obtain ⟨call, found, past⟩ := answered.elim ih fun now => by
        obtain ⟨answer, answers⟩ := Option.isSome_iff_exists.mp now
        exact (answers_cases answers).1
      obtain ⟨grown, known, grows⟩ := calls_step taken found
      exact ⟨grown, known, grows.pastSend past⟩

private theorem dispatch_of_firstAnswer
    (run : (fleetManager app).Run history before)
    (taken : step app before event = some after)
    (answered : (firstAnswer history id nodeId).isSome) :
    dispatch (history ++ [(before, event)]) id = dispatch history id := by
  rw [dispatch_concat]
  cases sends : before.dispatches id event with
  | none => exact Option.or_none ..
  | some target =>
      obtain ⟨call, task, found, registered, -, -⟩ :=
        step_of_dispatches taken sends
      obtain ⟨sent, known, past⟩ := pastSend_of_firstAnswer run answered
      obtain rfl := Option.some.inj (found.symm.trans known)
      simp [ChatCall.pastSend, registered] at past

private theorem accepts_cases (accepts : before.accepts id event = true) :
    ∃ source done, event = .receive source (.text (.done done)) ∧
      done.requestId = id ∧
      (before.registry.pending.lookup id).isSome = true := by
  unfold FleetState.accepts at accepts
  split at accepts
  · next source done =>
      obtain ⟨same, pending⟩ := (Bool.and_eq_true _ _).mp accepts
      exact ⟨source, done, rfl, eq_of_beq same, pending⟩
  · cases accepts

theorem accepted_atMost (id : RequestId) (holds : AcceptedOnce history)
    (once : creditsOnce history before event = true) :
    acceptedCount (history ++ [(before, event)]) id ≤ 1 := by
  rw [acceptedCount_concat]
  cases accepted : before.accepts id event with
  | false => exact holds.atMost id
  | true =>
      obtain ⟨source, done, rfl, rfl, pending⟩ := accepts_cases accepted
      simp only [creditsOnce, pending, if_true, beq_iff_eq] at once
      rw [once]
      rfl

private theorem accepted_answer {source : TunnelId} {done : Done}
    {target : NodeId × TunnelId} (holds : AcceptedOnce history)
    (once : creditsOnce history before
      (.receive source (.text (.done done))) = true)
    (dispatched : dispatch history done.requestId = some target)
    (registered : before.sessionNode source = some target.1)
    (unanswered : firstAnswer history done.requestId target.1 = none) :
    acceptedCount
      (history ++ [(before, .receive source (.text (.done done)))])
      done.requestId = 1 := by
  rw [acceptedCount_concat]
  simp only [accepts, BEq.rfl, Bool.true_and]
  cases pending :
      (before.registry.pending.lookup done.requestId).isSome with
  | true =>
      simp only [creditsOnce, pending, if_true, beq_iff_eq] at once
      rw [once]
      rfl
  | false =>
      have atMost := holds.atMost done.requestId
      have credited : acceptedCount history done.requestId ≠ 0 := by
        simpa [creditsOnce, pending, dispatched, registered, unanswered]
          using once
      have one : acceptedCount history done.requestId = 1 := by omega
      simpa using one

private theorem acceptedOnce_kept (run : (fleetManager app).Run history before)
    (holds : AcceptedOnce history)
    (once : creditsOnce history before event = true)
    (taken : step app before event = some after) :
    AcceptedOnce (history ++ [(before, event)]) := by
  refine ⟨fun id => accepted_atMost id holds once,
    fun id nodeId tunnel done dispatched answered => ?_⟩
  have atMost := accepted_atMost id holds once
  cases earlier : firstAnswer history id nodeId with
  | some answer =>
      rw [firstAnswer_concat, earlier] at answered
      obtain rfl : answer = .done done := by simpa using answered
      rw [dispatch_of_firstAnswer run taken (by rw [earlier]; rfl)]
        at dispatched
      have counted := holds.once id nodeId tunnel done dispatched earlier
      rw [acceptedCount_concat] at atMost ⊢
      omega
  | none =>
      rw [firstAnswer_concat, earlier, Option.none_or] at answered
      obtain ⟨source, rfl, rfl, registered⟩ :=
        (answers_cases answered).2 done rfl
      rw [dispatch_concat] at dispatched
      have dispatched : dispatch history done.requestId =
          some (nodeId, tunnel) := by
        simpa [dispatches] using dispatched
      exact accepted_answer holds once dispatched registered earlier

private theorem acceptedOnce_run (run : (fleetManager app).Run history final)
    (guarded : Guarded
      (fun earlier state event => creditsOnce earlier state event = true)
      history) : AcceptedOnce history := by
  induction run with
  | start =>
      exact ⟨fun _ => Nat.zero_le _, fun _ _ _ _ dispatched => by
        cases dispatched⟩
  | next run taken ih =>
      obtain ⟨guarded, once⟩ := guarded_concat.mp guarded
      exact acceptedOnce_kept run (ih guarded) once taken

/-- In a run in which every database call succeeds, deliveries are credited
exactly once as long as every `Done` meets the guard. -/
theorem exactlyOnce_along
    (succeeding : ∀ taken ∈ history, taken.2.succeeds = true)
    (guarded : Guarded
      (fun earlier state event => creditsOnce earlier state event = true)
      history) :
    (fleetManager app).Along ExactlyOnce history := by
  intro earlier state inside reached
  have succeeding : ∀ taken ∈ earlier, taken.2.succeeds = true :=
    fun taken member => succeeding taken (inside.subset member)
  have accepted := acceptedOnce_run reached (guarded.of_prefix inside)
  have deliveries (id : RequestId) :=
    tally_run (tallies_deliveryCount id) reached succeeding
  have credits (id : RequestId) :=
    tally_run (tallies_deliveryCredits id) reached succeeding
  have spawned (id : RequestId) :=
    spawnedCount_eq_acceptedCount id reached
  constructor
  · intro id
    have atMost := accepted.atMost id
    have delivered := deliveries id
    have credited := credits id
    rw [(spawned id).1] at delivered
    rw [(spawned id).2] at credited
    omega
  · intro drained id nodeId tunnel done dispatched answered
    have one := accepted.once id nodeId tunnel done dispatched answered
    have delivered := deliveries id
    have credited := credits id
    rw [(spawned id).1, drained, List.countP_nil] at delivered
    rw [(spawned id).2, drained, List.countP_nil] at credited
    omega

theorem exactlyOnce_along_single :
    ∃ history final, (fleetManager bareApp).Run history final ∧
      final.db.deliveryCount "r" = 1 ∧
      (fleetManager bareApp).Along ExactlyOnce history := by
  obtain ⟨history, final, run, observed⟩ :=
    (fleetManager bareApp).exists_run_of_trace
      (dispatchEvents "node" ++
        [.runTask 0 true, .runTask 0 true,
          .receive 0 (.text (.done ⟨"r", ⟨1, 1, 2⟩⟩)), .recv "r",
          .disconnect "r", .receive 0 (.text (.done ⟨"r", ⟨1, 1, 2⟩⟩)),
          .runTask 1 true, .runTask 1 true])
      (fun outcome => outcome.2.db.deliveryCount "r" = 1 ∧
        (∀ taken ∈ outcome.1, taken.2.succeeds = true) ∧
        admits creditsOnce [] outcome.1 = true)
      (by decide +kernel)
  obtain ⟨one, succeeding, admitted⟩ := of_decide_eq_true observed
  exact ⟨history, final, run, one,
    exactlyOnce_along succeeding (guarded_of_admits admitted)⟩

/-- The node repeats its `Done` while the client still reads its stream. -/
theorem repeated_done_credits_twice :
    ∃ history final, (fleetManager bareApp).Run history final ∧
      (∀ taken ∈ history, taken.2.succeeds = true) ∧
      final.db.deliveryCount "r" = 2 ∧ final.db.deliveryCredits "r" = 2 ∧
      ¬ ExactlyOnce history final := by
  obtain ⟨history, final, run, observed⟩ :=
    (fleetManager bareApp).exists_run_of_trace
      (dispatchEvents "node" ++
        [.runTask 0 true, .runTask 0 true,
          .receive 0 (.text (.done ⟨"r", ⟨1, 1, 2⟩⟩)),
          .receive 0 (.text (.done ⟨"r", ⟨1, 1, 2⟩⟩)),
          .runTask 1 true, .runTask 1 true, .runTask 2 true,
          .runTask 2 true])
      (fun outcome => (∀ taken ∈ outcome.1, taken.2.succeeds = true) ∧
        outcome.2.db.deliveryCount "r" = 2 ∧
        outcome.2.db.deliveryCredits "r" = 2)
      (by decide +kernel)
  obtain ⟨succeeding, rows, credits⟩ := of_decide_eq_true observed
  refine ⟨history, final, run, succeeding, rows, credits, fun holds => ?_⟩
  have rows : final.db.deliveryCount "r" = 2 := rows
  have atMost := (holds.atMost "r").1
  omega

end JwSwarm.FleetManager
