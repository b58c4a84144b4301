import JwSwarm.FleetManager.Tasks

namespace JwSwarm.FleetManager

open Data Proto Transition Machine FleetState

/-! Session rows against tunnels. Rows that are or will be open are supplied by
`Register`; tunnels that are open or whose close is still queued demand them. -/

variable {app : AppState} {history : History FleetState Event}
variable {before after final : FleetState} {event : Event}
variable {tunnel : TunnelId} {task : Tunnel} {nodeId : NodeId}

namespace FleetState

def openTunnels (state : FleetState) (nodeId : NodeId) : ℕ :=
  state.standings.countP fun standing => standing == (true, some nodeId)

private def supply (state : FleetState) (nodeId : NodeId) : ℕ :=
  state.db.openRows nodeId +
    state.tasks.flatten.countP (DbCall.opens nodeId)

private def demand (state : FleetState) (nodeId : NodeId) : ℕ :=
  state.openTunnels nodeId +
    state.tasks.flatten.countP (DbCall.closes nodeId)

end FleetState

/-- Whenever no task is outstanding, the open rows of a node are as many as its
open tunnels. -/
def SessionsBalance (_ : History FleetState Event) (state : FleetState) :
    Prop :=
  state.tasks.flatten = [] → ∀ nodeId,
    state.db.openRows nodeId = state.openTunnels nodeId

/-- A tunnel registers once, and a close finds an open row. -/
def pairsSessions (state : FleetState) : Event → Bool
  | .receive tunnel (.text (.register _)) => (state.sessionNode tunnel).isNone
  | .runTask task _ =>
      match state.tasks[task]? with
      | some (.closeSession nodeId :: _) =>
          state.db.sessions.any (Db.isOpenFor nodeId)
      | _ => true
  | _ => true

def surplusRegister (state : FleetState) (nodeId : NodeId) : Event → ℕ
  | .receive tunnel (.text (.register _)) =>
      if state.sessionNode tunnel = some nodeId then 1 else 0
  | _ => 0

def surplusClose (state : FleetState) (nodeId : NodeId) : Event → ℕ
  | .runTask task _ =>
      match state.tasks[task]? with
      | some (call :: _) =>
          if call.closes nodeId &&
            !state.db.sessions.any (Db.isOpenFor nodeId) then 1 else 0
      | _ => 0
  | _ => 0

def surplus (state : FleetState) (nodeId : NodeId) (event : Event) : ℕ :=
  surplusRegister state nodeId event + surplusClose state nodeId event

private theorem surplusClose_eq_zero
    (other : ∀ task succeeds, event ≠ .runTask task succeeds) :
    surplusClose before nodeId event = 0 := by
  cases event with
  | runTask task succeeds => exact absurd rfl (other task succeeds)
  | _ => rfl

private theorem surplusClose_run {call : DbCall} {rest : List DbCall} {task : ℕ}
    (succeeds : Bool) (found : before.tasks[task]? = some (call :: rest)) :
    (if call.closes nodeId then 1 else 0) =
      (if call.closes nodeId && before.db.sessions.any (Db.isOpenFor nodeId)
        then 1 else 0) +
        surplusClose before nodeId (.runTask task succeeds) := by
  simp only [surplusClose, found]
  cases call.closes nodeId with
  | false => rfl
  | true => cases before.db.sessions.any (Db.isOpenFor nodeId) <;> rfl

private theorem rows_step (nodeId : NodeId) (succeeds : event.succeeds = true)
    (taken : step app before event = some after) :
    after.supply nodeId + before.tasks.flatten.countP (DbCall.closes nodeId) +
        (spawns app before event).flatten.countP (DbCall.closes nodeId) =
      before.supply nodeId +
        after.tasks.flatten.countP (DbCall.closes nodeId) +
        (spawns app before event).flatten.countP (DbCall.opens nodeId) +
        surplusClose before nodeId event := by
  cases db_step taken with
  | spawn db tasks other =>
      rw [supply, supply, db, tasks, surplusClose_eq_zero other,
        List.flatten_append, List.countP_append, List.countP_append]
      omega
  | run call rest task ok same found db tasks =>
      subst same
      obtain rfl : ok = true := succeeds
      have rows := Db.openRows_exec nodeId db
      have moved := flatten_perm_set found
      have opens := moved.countP_eq (DbCall.opens nodeId)
      have closes := moved.countP_eq (DbCall.closes nodeId)
      rw [List.countP_cons] at opens closes
      rw [surplusClose_run true found] at closes
      rw [supply, supply, tasks, opens, closes]
      simp only [spawns, List.flatten_nil, List.countP_nil]
      omega
  | resume credit tunnel task ok same found awaited db tasks =>
      subst same
      obtain rfl : ok = true := succeeds
      have rows := Db.openRows_exec nodeId db
      have opens : credit.call.opens nodeId = false := by
        unfold CapacityCredit.call
        split <;> rfl
      have closes : credit.call.closes nodeId = false := by
        unfold CapacityCredit.call
        split <;> rfl
      rw [opens, closes] at rows
      have same : after.db.openRows nodeId = before.db.openRows nodeId := rows
      rw [supply, supply, tasks, same]
      rfl

theorem spawned_sessions {registry : Registry} {session : Option Session}
    {now : ℕ} {msg : Message} (other : msg.isRegister = false) :
    ∀ call ∈ (handleMessage app registry tunnel session now
        msg).spawned.flatten,
      call.opens nodeId = false ∧ call.closes nodeId = false := by
  cases msg with
  | register register => cases other
  | heartbeat heartbeat => simp [handleMessage]
  | done done =>
      simp only [handleMessage, handleDone]
      cases registry.getPending done.requestId with
      | none => simp
      | some entry => simp [deliveryTask, DbCall.opens, DbCall.closes]
  | _ => intro call inside; cases inside

theorem openTunnels_set (nodeId : NodeId) {standing new : Bool × Option NodeId}
    (found : before.standings[tunnel]? = some standing)
    (changed : after.standings = before.standings.set tunnel new) :
    after.openTunnels nodeId +
        (if standing == (true, some nodeId) then 1 else 0) =
      before.openTunnels nodeId +
        if new == (true, some nodeId) then 1 else 0 := by
  rw [openTunnels, openTunnels, changed]
  exact countP_set_add _ found

private theorem tunnels_quiet (quiet : event.isReceive = false)
    (taken : step app before event = some after) :
    after.openTunnels nodeId = before.openTunnels nodeId := by
  obtain ⟨joined, standings, blank⟩ := standings_quiet taken quiet
  rw [openTunnels, standings, List.countP_append, openTunnels]
  rcases blank with rfl | rfl
  · rfl
  · rfl

private theorem tunnels_register (app : AppState) (nodeId : NodeId)
    (register : Register)
    (found : before.tunnels[tunnel]? = some task)
    (reading : task.phase = .reading) :
    (stepMessage app before tunnel task (.register register)).openTunnels
          nodeId +
        (if before.sessionNode tunnel = some nodeId then 1 else 0) =
      before.openTunnels nodeId +
        if register.nodeId = nodeId then 1 else 0 := by
  have stands : (stepMessage app before tunnel task
      (.register register)).standings =
        before.standings.set tunnel (true, some register.nodeId) :=
    standings_stepMessage reading
  have moved :=
    openTunnels_set nodeId (standing_of_reading found reading) stands
  simpa using moved

private theorem tunnels_message {msg : Message}
    (found : before.tunnels[tunnel]? = some task)
    (reading : task.phase = .reading) (other : msg.isRegister = false) :
    (stepMessage app before tunnel task msg).openTunnels nodeId =
      before.openTunnels nodeId := by
  have stands : (stepMessage app before tunnel task msg).standings =
      before.standings.set tunnel (true, before.sessionNode tunnel) := by
    rw [standings_stepMessage reading, sessionNode_handleMessage other,
      sessionNode_eq found]
  exact Nat.add_right_cancel
    (openTunnels_set nodeId (standing_of_reading found reading) stands)

private theorem tunnels_close (nodeId : NodeId)
    (found : before.tunnels[tunnel]? = some task)
    (reading : task.phase = .reading) :
    (stepClose before tunnel task).openTunnels nodeId +
        (if before.sessionNode tunnel = some nodeId then 1 else 0) =
      before.openTunnels nodeId := by
  have stands : (stepClose before tunnel task).standings =
      before.standings.set tunnel (false, task.session.map Session.nodeId) :=
    standings_stepClose
  have moved :=
    openTunnels_set nodeId (standing_of_reading found reading) stands
  simpa using moved

private theorem countP_spawned_sessions {registry : Registry}
    {session : Option Session} {now : ℕ} {msg : Message}
    (other : msg.isRegister = false) :
    (handleMessage app registry tunnel session now
        msg).spawned.flatten.countP (DbCall.opens nodeId) = 0 ∧
      (handleMessage app registry tunnel session now
        msg).spawned.flatten.countP (DbCall.closes nodeId) = 0 := by
  constructor
  · apply List.countP_eq_zero.mpr
    intro call inside
    simp [(spawned_sessions other call inside).1]
  · apply List.countP_eq_zero.mpr
    intro call inside
    simp [(spawned_sessions other call inside).2]

private theorem spawns_close {frame : Inbound} (ends : frame.ends = true) :
    spawns app before (.receive tunnel frame) =
      (before.sessionNode tunnel).toList.map
        fun nodeId => [.closeSession nodeId] := by
  cases frame with
  | text msg => cases ends
  | invalid => cases ends
  | control => cases ends
  | close => rfl
  | readError => rfl
  | ended => rfl

private theorem tunnels_step (nodeId : NodeId)
    (taken : step app before event = some after) :
    after.openTunnels nodeId + surplusRegister before nodeId event +
        (spawns app before event).flatten.countP (DbCall.closes nodeId) =
      before.openTunnels nodeId +
        (spawns app before event).flatten.countP (DbCall.opens nodeId) := by
  cases event with
  | receive tunnel frame =>
      obtain ⟨task, found, reading, -, outcome⟩ := stepReceive_cases taken
      rcases outcome with ⟨msg, rfl, rfl⟩ | ⟨ends, rfl⟩ | ⟨skipped, rfl⟩
      · simp only [spawns, found]
        cases register : msg.isRegister with
        | true =>
            cases msg with
            | register payload =>
                have moved := tunnels_register app nodeId payload found reading
                simpa [surplusRegister, handleMessage, handleRegister,
                  DbCall.opens, DbCall.closes] using moved
            | _ => cases register
        | false =>
            obtain ⟨opens, closes⟩ :
                (handleMessage app before.registry tunnel task.session
                  before.clock msg).spawned.flatten.countP
                    (DbCall.opens nodeId) = 0 ∧ _ :=
              countP_spawned_sessions register
            rw [tunnels_message found reading register, opens, closes]
            cases msg with
            | register payload => cases register
            | _ => rfl
      · have moved := tunnels_close nodeId found reading
        rw [spawns_close ends]
        cases registered : before.sessionNode tunnel with
        | none =>
            rw [registered] at moved
            cases frame with
            | text msg => cases ends
            | _ => exact moved
        | some own =>
            rw [registered] at moved
            cases frame with
            | text msg => cases ends
            | _ =>
                simpa [surplusRegister, DbCall.opens, DbCall.closes]
                  using moved
      · rcases skipped with rfl | rfl
        · rfl
        · rfl
  | _ =>
      rw [tunnels_quiet rfl taken]
      rfl

private theorem balance_step (nodeId : NodeId)
    (succeeds : event.succeeds = true)
    (taken : step app before event = some after) :
    after.supply nodeId + before.demand nodeId =
      before.supply nodeId + after.demand nodeId +
        surplus before nodeId event := by
  have rows := rows_step nodeId succeeds taken
  have tunnels := tunnels_step nodeId taken
  rw [demand, demand, surplus]
  omega

def totalSurplus (history : History FleetState Event) (nodeId : NodeId) : ℕ :=
  (history.map fun taken => surplus taken.1 nodeId taken.2).sum

private theorem totalSurplus_concat :
    totalSurplus (history ++ [(before, event)]) nodeId =
      totalSurplus history nodeId + surplus before nodeId event := by
  simp [totalSurplus]

private theorem balance_run (nodeId : NodeId)
    (run : (fleetManager app).Run history final)
    (succeeding : ∀ taken ∈ history, taken.2.succeeds = true) :
    final.supply nodeId =
      final.demand nodeId + totalSurplus history nodeId := by
  induction run with
  | start => rfl
  | @next past before after event run taken ih =>
      have earlier := ih fun step inside =>
        succeeding step (List.mem_append_left _ inside)
      have succeeds : event.succeeds = true :=
        succeeding (before, event) (by simp)
      have now := balance_step nodeId succeeds taken
      rw [totalSurplus_concat]
      omega

theorem pairsSessions_iff :
    pairsSessions before event = true ↔
      ∀ nodeId, surplus before nodeId event = 0 := by
  cases event with
  | receive tunnel frame =>
      cases frame with
      | text msg =>
          cases msg with
          | register register =>
              simp only [pairsSessions, surplus, surplusRegister, surplusClose]
              cases before.sessionNode tunnel with
              | none => simp
              | some own => simp
          | _ => exact iff_of_true rfl fun _ => rfl
      | _ => exact iff_of_true rfl fun _ => rfl
  | runTask task succeeds =>
      simp only [pairsSessions, surplus, surplusRegister, surplusClose]
      cases before.tasks[task]? with
      | none => simp
      | some calls =>
          cases calls with
          | nil => simp
          | cons call rest =>
              cases call with
              | closeSession own =>
                  constructor
                  · intro isOpen nodeId
                    by_cases same : own = nodeId
                    · subst same
                      simp [isOpen]
                    · simp [DbCall.closes, same]
                  · intro none
                    simpa [DbCall.closes] using none own
              | _ => simp [DbCall.closes]
  | _ => exact iff_of_true rfl fun _ => rfl

theorem totalSurplus_eq_zero_iff :
    (∀ nodeId, totalSurplus history nodeId = 0) ↔
      Guarded (fun _ state event => pairsSessions state event = true)
        history := by
  rw [guarded_iff_forall_mem]
  constructor
  · intro none taken member
    apply pairsSessions_iff.mpr
    intro nodeId
    exact List.sum_eq_zero_iff_forall_eq_nat.mp (none nodeId) _
      (List.mem_map.mpr ⟨taken, member, rfl⟩)
  · intro paired nodeId
    apply List.sum_eq_zero_iff_forall_eq_nat.mpr
    intro value member
    obtain ⟨taken, inside, rfl⟩ := List.mem_map.mp member
    exact pairsSessions_iff.mp (paired taken inside) nodeId

/-- The open rows of a drained state exceed the open tunnels by the surplus of
the run. -/
theorem openRows_of_drained (nodeId : NodeId)
    (run : (fleetManager app).Run history final)
    (succeeding : ∀ taken ∈ history, taken.2.succeeds = true)
    (drained : final.tasks.flatten = []) :
    final.db.openRows nodeId =
      final.openTunnels nodeId + totalSurplus history nodeId := by
  have balance := balance_run nodeId run succeeding
  simpa [supply, demand, drained] using balance

/-- While every step pairs its rows, the rows balance the tunnels; and in a run
that ends with no task outstanding they balance only then. -/
theorem sessionsBalance_along (run : (fleetManager app).Run history final)
    (succeeding : ∀ taken ∈ history, taken.2.succeeds = true) :
    (Guarded (fun _ state event => pairsSessions state event = true) history →
      (fleetManager app).Along SessionsBalance history) ∧
    (final.tasks.flatten = [] →
      (fleetManager app).Along SessionsBalance history →
      Guarded (fun _ state event => pairsSessions state event = true)
        history) := by
  constructor
  · intro paired earlier state inside reached drained nodeId
    have none := totalSurplus_eq_zero_iff.mpr (paired.of_prefix inside) nodeId
    have rows := openRows_of_drained nodeId reached
      (fun taken member => succeeding taken (inside.subset member)) drained
    omega
  · intro drained along
    apply totalSurplus_eq_zero_iff.mp
    intro nodeId
    have balanced := along.last run drained nodeId
    have rows := openRows_of_drained nodeId run succeeding drained
    omega

/-- An engine that was compiled to take the update of the latest row. -/
def limitingApp : AppState :=
  { bareApp with sqlite := ⟨true⟩ }

theorem sessionsBalance_along_reconnect :
    ∃ history final, (fleetManager limitingApp).Run history final ∧
      final.tasks.flatten = [] ∧ final.db.sessions.length = 2 ∧
      (fleetManager limitingApp).Along SessionsBalance history := by
  obtain ⟨history, final, run, observed⟩ :=
    (fleetManager limitingApp).exists_run_of_trace
      [.connect, .receive 0 (.text (.register (plainRegister "node"))),
        .connect, .receive 1 (.text (.register (plainRegister "node"))),
        .runTask 0 true, .runTask 0 true, .receive 0 .close,
        .runTask 2 true, .runTask 1 true, .runTask 1 true]
      (fun outcome => outcome.2.tasks.flatten.isEmpty ∧
        outcome.2.db.sessions.length = 2 ∧
        (∀ taken ∈ outcome.1, taken.2.succeeds = true) ∧
        admits (fun _ => pairsSessions) [] outcome.1 = true)
      (by decide +kernel)
  obtain ⟨drained, two, succeeding, admitted⟩ := of_decide_eq_true observed
  exact ⟨history, final, run, List.isEmpty_iff.mp drained, two,
    (sessionsBalance_along run succeeding).1 (guarded_of_admits admitted)⟩

/-- A node that registers twice on one tunnel leaves an open row behind. -/
theorem repeated_register_leaves_open_row :
    ∃ history final, (fleetManager limitingApp).Run history final ∧
      (∀ taken ∈ history, taken.2.succeeds = true) ∧
      final.tasks.flatten = [] ∧ final.openTunnels "node" = 0 ∧
      final.db.openRows "node" = 1 ∧ ¬ SessionsBalance history final := by
  obtain ⟨history, final, run, observed⟩ :=
    (fleetManager limitingApp).exists_run_of_trace
      [.connect, .receive 0 (.text (.register (plainRegister "node"))),
        .receive 0 (.text (.register (plainRegister "node"))),
        .runTask 0 true, .runTask 0 true, .runTask 1 true, .runTask 1 true,
        .receive 0 .close, .runTask 2 true]
      (fun outcome => (∀ taken ∈ outcome.1, taken.2.succeeds = true) ∧
        outcome.2.tasks.flatten.isEmpty ∧
        outcome.2.openTunnels "node" = 0 ∧
        outcome.2.db.openRows "node" = 1)
      (by decide +kernel)
  obtain ⟨succeeding, drained, closed, rows⟩ := of_decide_eq_true observed
  have drained := List.isEmpty_iff.mp drained
  refine ⟨history, final, run, succeeding, drained, closed, rows,
    fun holds => ?_⟩
  have same : final.db.openRows "node" = final.openTunnels "node" :=
    holds drained "node"
  rw [show final.db.openRows "node" = 1 from rows,
    show final.openTunnels "node" = 0 from closed] at same
  cases same

end JwSwarm.FleetManager
