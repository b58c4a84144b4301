import JwSwarm.FleetManager.CapacityCredit
import JwSwarm.FleetManager.Tasks

namespace JwSwarm.FleetManager

open Data Proto Transition Machine FleetState

/-! Capacity points against session rows. Points are computed from the tunnel's
own session; awake seconds are due to the node's latest open row, by an update
that the bundled engine refuses. -/

variable {app : AppState} {base : Db} {history : History FleetState Event}
variable {before after final : FleetState} {event : Event}
variable {nodeId : NodeId}

def LedgerRow.capacityFor (nodeId : NodeId) (row : LedgerRow) : ℚ :=
  if row.nodeId = nodeId ∧ row.kind = "capacity" then row.points else 0

/-- What the design's formula gives for a session row. -/
def SessionRow.capacityFor (app : AppState) (nodeId : NodeId)
    (row : SessionRow) : ℚ :=
  if row.nodeId = nodeId then
    app.accounting.capacityPoints row.awakeSeconds row.gpuPowerPct row.vramMb
  else 0

def capacityLedger (base db : Db) (nodeId : NodeId) : ℚ :=
  ((db.pointsLedger.drop base.pointsLedger.length).map
    (LedgerRow.capacityFor nodeId)).sum

/-- The design's formula over the node's session rows opened since the start. -/
def capacityRows (app : AppState) (base db : Db) (nodeId : NodeId) : ℚ :=
  ((db.sessions.drop base.sessions.length).map
    (SessionRow.capacityFor app nodeId)).sum

/-- No task is outstanding and no heartbeat handler is suspended. -/
def FleetState.Settled (state : FleetState) : Prop :=
  state.tasks.flatten = [] ∧ ∀ task ∈ state.tunnels, task.awaited = none

/-- When all tasks have run, the ledger gives every node the capacity points of
its session rows. -/
def Reconciles (app : AppState) (base : Db) (_ : History FleetState Event)
    (state : FleetState) : Prop :=
  state.Settled → ∀ nodeId,
    capacityLedger base state.db nodeId = capacityRows app base state.db nodeId

section Rows

variable {db next : Db} {now : ℕ} {call : DbCall} {succeeds : Bool}

/-- The rows opened since the start have no awake second, and the engine adds
none. -/
structure Unearned (base db : Db) : Prop where
  refuses : db.sqlite.limitsUpdates = false
  opened : ∃ rows, db.sessions = base.sessions ++ rows ∧
    ∀ row ∈ rows, row.awakeSeconds = 0

private theorem not_updated {change : SessionRow → SessionRow}
    (refuses : db.sqlite.limitsUpdates = false) :
    db.updateLatestOpenSession nodeId change = none := by
  rw [Db.updateLatestOpenSession, refuses]
  rfl

theorem Unearned.exec (unearned : Unearned base db)
    (executed : db.exec now call = some next) : Unearned base next := by
  cases call with
  | upsertNode register =>
      obtain rfl := Option.some.inj executed
      rw [Db.upsertNode_eq]
      exact ⟨unearned.refuses, unearned.opened⟩
  | openSession other gpuPowerPct vramMb =>
      rw [Db.openSession_cases executed]
      obtain ⟨rows, sessions, unused⟩ := unearned.opened
      let added : SessionRow :=
        { nodeId := other, connectedAt := now, gpuPowerPct, vramMb }
      refine ⟨unearned.refuses, rows ++ [added], ?_, fun row member => ?_⟩
      · exact (congrArg (· ++ _) sessions).trans (List.append_assoc _ _ _)
      · rcases List.mem_append.mp member with old | new
        · exact unused row old
        · obtain rfl := List.mem_singleton.mp new
          rfl
  | closeSession other =>
      exact absurd executed (by
        simp [Db.exec, Db.closeSession, not_updated unearned.refuses])
  | touchSessionAwake other delta =>
      exact absurd executed (by
        simp [Db.exec, Db.touchSessionAwake, not_updated unearned.refuses])
  | recordDelivery requestId other model usage latencyMs =>
      rw [Db.recordDelivery_cases executed]
      exact ⟨unearned.refuses, unearned.opened⟩
  | creditPoints other kind points sourceRef =>
      rw [Db.creditPoints_cases executed]
      exact ⟨unearned.refuses, unearned.opened⟩

theorem Unearned.attempt (unearned : Unearned base db)
    (attempted : db.attempt now call succeeds = some next) :
    Unearned base next := by
  unfold Db.attempt at attempted
  split at attempted
  · exact unearned.exec attempted
  · obtain rfl := Option.some.inj attempted
    exact unearned

theorem Unearned.capacityRows (unearned : Unearned base db) (app : AppState)
    (nodeId : NodeId) : capacityRows app base db nodeId = 0 := by
  obtain ⟨rows, sessions, unused⟩ := unearned.opened
  rw [FleetManager.capacityRows, sessions, List.drop_left]
  refine List.sum_eq_zero fun points member => ?_
  obtain ⟨row, inside, rfl⟩ := List.mem_map.mp member
  simp [SessionRow.capacityFor, unused row inside, Accounting.capacityPoints]

theorem unearned_run (refuses : base.sqlite.limitsUpdates = false)
    (run : (fleetManagerOn app base).Run history final) :
    Unearned base final.db := by
  induction run with
  | start => exact ⟨refuses, [], (List.append_nil _).symm, nofun⟩
  | next run taken ih =>
      cases db_step taken with
      | spawn db tasks other => rw [db]; exact ih
      | run call rest task succeeds same found db tasks => exact ih.attempt db
      | resume credit tunnel task succeeds same found awaited db tasks =>
          exact ih.attempt db

end Rows

/-- In every run, with failing calls or without, the ledger reconciles exactly
where it holds no capacity points. -/
theorem reconciles_iff_uncredited (refuses : base.sqlite.limitsUpdates = false)
    (run : (fleetManagerOn app base).Run history final) :
    Reconciles app base history final ↔
      (final.Settled → ∀ nodeId, capacityLedger base final.db nodeId = 0) := by
  unfold Reconciles
  simp only [(unearned_run refuses run).capacityRows]

def DbCall.accrues : DbCall → Bool
  | .creditPoints _ kind _ _ => kind == "capacity"
  | _ => false

private theorem spawned_plain {registry : Registry} {tunnel : TunnelId}
    {session : Option Session} {now : ℕ} {msg : Message} :
    ∀ call ∈ (handleMessage app registry tunnel session now
      msg).spawned.flatten, call.accrues = false := by
  intro call inside
  cases msg with
  | register register =>
      rcases List.mem_pair.mp inside with rfl | rfl
      · rfl
      · rfl
  | heartbeat heartbeat =>
      rw [handleMessage, spawned_handleHeartbeat] at inside
      cases inside
  | done done =>
      obtain ⟨calls, spawned, inside⟩ := List.mem_flatten.mp inside
      obtain ⟨request, -, rfl⟩ := List.mem_map.mp spawned
      rcases List.mem_pair.mp inside with rfl | rfl
      · rfl
      · exact beq_eq_false_iff_ne.mpr (by decide)
  | _ => cases inside

private theorem spawns_plain :
    ∀ call ∈ (spawns app before event).flatten, call.accrues = false := by
  intro call inside
  cases event with
  | receive tunnel frame =>
      cases frame with
      | text msg =>
          simp only [spawns] at inside
          cases found : before.tunnels[tunnel]? with
          | none =>
              rw [found] at inside
              cases inside
          | some task =>
              rw [found] at inside
              exact spawned_plain call inside
      | invalid => cases inside
      | control => cases inside
      | _ =>
          simp only [spawns, Inbound.ends, if_true] at inside
          cases own : before.sessionNode tunnel with
          | none =>
              rw [own] at inside
              cases inside
          | some nodeId =>
              rw [own] at inside
              obtain rfl := List.mem_singleton.mp inside
              rfl
  | _ => cases inside

private theorem untouched_of_earns {credit : CapacityCredit}
    (earned : before.earns app event = some credit) :
    credit.touched = false := by
  cases event with
  | receive tunnel frame =>
      cases frame with
      | text msg =>
          obtain ⟨task, -, awaits⟩ := Option.bind_eq_some_iff.mp earned
          obtain ⟨own, -, -, untouched⟩ := awaited_cases awaits
          exact untouched
      | _ => cases earned
  | _ => cases earned

/-- A handler that is past its first call is about to credit. -/
def CapacityCredit.credits (credit : CapacityCredit) : ℕ :=
  if credit.touched then 1 else 0

/-- Nothing has been credited for capacity, and nothing is about to be. -/
structure Uncredited (base : Db) (state : FleetState) : Prop where
  grown : base.pointsLedger.length ≤ state.db.pointsLedger.length
  ledger : ∀ nodeId, capacityLedger base state.db nodeId = 0
  plain : ∀ call ∈ state.tasks.flatten, call.accrues = false
  untouched : state.held CapacityCredit.credits = 0

theorem credits_other (taken : step app before event = some after)
    (other : ∀ tunnel succeeds, event ≠ .resume tunnel succeeds) :
    after.held CapacityCredit.credits =
      before.held CapacityCredit.credits := by
  cases receives : event.isReceive with
  | false => exact held_quiet _ taken receives other
  | true =>
      cases event with
      | receive tunnel frame =>
          rw [held_receive _ taken]
          cases earned : before.earns app (.receive tunnel frame) with
          | none => exact add_zero _
          | some credit =>
              have untouched := untouched_of_earns earned
              rw [Option.map_some, Option.getD_some, CapacityCredit.credits,
                untouched]
              rfl
      | _ => cases receives

private theorem capacity_of_plain {call : DbCall} (plain : call.accrues = false)
    (now : ℕ) (nodeId : NodeId) :
    ((Db.ledgerRows now call).map (LedgerRow.capacityFor nodeId)).sum = 0 := by
  cases call with
  | creditPoints other kind points sourceRef =>
      have kind : kind ≠ "capacity" := beq_eq_false_iff_ne.mp plain
      simp [Db.ledgerRows, LedgerRow.capacityFor, kind]
  | _ => rfl

private theorem uncredited_runTask {task : ℕ} {call : DbCall}
    {rest : List DbCall} (uncredited : Uncredited base before)
    (taken : step app before (.runTask task true) = some after)
    (found : before.tasks[task]? = some (call :: rest))
    (executed : before.db.exec before.clock call = some after.db)
    (tasks : after.tasks = before.tasks.set task rest) :
    Uncredited base after := by
  have moved := flatten_perm_set found
  have plain : call.accrues = false :=
    uncredited.plain call (moved.mem_iff.mpr List.mem_cons_self)
  have added := (Db.rows_exec executed).2
  refine ⟨?_, fun nodeId => ?_, fun other inside => ?_, ?_⟩
  · rw [added, List.length_append]
    exact uncredited.grown.trans (Nat.le_add_right _ _)
  · rw [capacityLedger, added,
      List.drop_append_of_le_length uncredited.grown, List.map_append,
      List.sum_append, capacity_of_plain plain, add_zero]
    exact uncredited.ledger nodeId
  · rw [tasks] at inside
    exact uncredited.plain other
      (moved.mem_iff.mpr (List.mem_cons_of_mem _ inside))
  · rw [credits_other taken nofun]
    exact uncredited.untouched

theorem not_resumed {tunnel : TunnelId}
    (refuses : before.db.sqlite.limitsUpdates = false)
    (untouched : before.held CapacityCredit.credits = 0)
    (taken : step app before (.resume tunnel true) = some after) : False := by
  obtain ⟨task, credit, db, awaited, found, awaits, rfl, outcome⟩ :=
    stepResume_cases taken
  rcases outcome with ⟨touched, -, -⟩ | ⟨-, -, added⟩
  · have holds : task.held CapacityCredit.credits = 0 :=
      List.sum_eq_zero_iff_forall_eq_nat.mp untouched _
        (List.mem_map_of_mem (List.mem_of_getElem? found))
    rw [Tunnel.held, awaits] at holds
    simp [CapacityCredit.credits, touched] at holds
  · simp [Db.attempt, Db.exec, Db.touchSessionAwake, not_updated refuses]
      at added

private theorem uncredited_step (uncredited : Uncredited base before)
    (refuses : before.db.sqlite.limitsUpdates = false)
    (succeeds : event.succeeds = true)
    (taken : step app before event = some after) :
    Uncredited base after := by
  have attempts := db_step taken
  cases attempts with
  | spawn db tasks other =>
      have still : ∀ tunnel ok, event ≠ .resume tunnel ok := by
        rintro tunnel ok rfl
        obtain rfl : ok = true := succeeds
        exact not_resumed refuses uncredited.untouched taken
      refine ⟨db ▸ uncredited.grown, db ▸ uncredited.ledger,
        fun call inside => ?_, ?_⟩
      · rw [tasks, List.flatten_append] at inside
        rcases List.mem_append.mp inside with old | new
        · exact uncredited.plain call old
        · exact spawns_plain call new
      · rw [credits_other taken still]
        exact uncredited.untouched
  | run call rest task ok same found db tasks =>
      subst same
      obtain rfl : ok = true := succeeds
      exact uncredited_runTask uncredited taken found db tasks
  | resume credit tunnel task ok same found awaited db tasks =>
      subst same
      obtain rfl : ok = true := succeeds
      exact (not_resumed refuses uncredited.untouched taken).elim

private theorem uncredited_run (refuses : base.sqlite.limitsUpdates = false)
    (run : (fleetManagerOn app base).Run history final)
    (succeeding : ∀ taken ∈ history, taken.2.succeeds = true) :
    Uncredited base final := by
  induction run with
  | start =>
      refine ⟨Nat.le_refl _, fun nodeId => ?_, nofun, rfl⟩
      simp [fleetManagerOn, capacityLedger]
  | next run taken ih =>
      have earlier := ih fun step inside =>
        succeeding step (List.mem_append_left _ inside)
      exact uncredited_step earlier (unearned_run refuses run).refuses
        (succeeding _ (List.mem_append_right _ (List.mem_singleton.mpr rfl)))
        taken

def knownNode (nodeId : NodeId) : Db where
  nodes := [{ nodeId, hostname := "host", os := .linux, gpuVendor := .nvidia
              gpuName := "gpu", gpuVramMb := 24576, firstSeen := 0
              lastSeen := 0 }]

end JwSwarm.FleetManager
