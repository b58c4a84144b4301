import JwSwarm.FleetManager.Steps

namespace JwSwarm.FleetManager

open Data Proto Transition Machine FleetState

/-! The database as the sum of what the tunnels spawned: every step either
leaves it alone and may spawn tasks, or runs one call. -/

variable {app : AppState} {history : History FleetState Event}
variable {before after final : FleetState} {event : Event}

/-- The tasks that a step spawns. -/
def spawns (app : AppState) (state : FleetState) :
    Event → List (List DbCall)
  | .receive tunnel (.text msg) =>
      match state.tunnels[tunnel]? with
      | some task => (handleMessage app state.registry tunnel task.session
          state.clock msg).spawned
      | none => []
  | .receive tunnel frame =>
      if frame.ends then
        (state.sessionNode tunnel).toList.map fun nodeId =>
          [.closeSession nodeId]
      else []
  | _ => []

def Event.succeeds : Event → Bool
  | .resume _ succeeds => succeeds
  | .runTask _ succeeds => succeeds
  | _ => true

def CapacityCredit.call (credit : CapacityCredit) : DbCall :=
  if credit.touched then
    .creditPoints credit.nodeId "capacity" credit.points credit.source
  else .touchSessionAwake credit.nodeId (deltaSec credit.deltaMs)

private theorem tasks_stepClose {tunnel : TunnelId} {task : Tunnel}
    (found : before.tunnels[tunnel]? = some task) :
    (stepClose before tunnel task).tasks = before.tasks ++
      (before.sessionNode tunnel).toList.map
        fun nodeId => [.closeSession nodeId] := by
  unfold stepClose
  cases session : task.session with
  | none => simp [setTunnel, sessionNode, found, session]
  | some own => simp [setTunnel, sessionNode, found, session]

private theorem db_stepClose {tunnel : TunnelId} {task : Tunnel} :
    (stepClose before tunnel task).db = before.db := by
  unfold stepClose
  cases task.session with
  | none => rfl
  | some session => rfl

inductive DbStep (app : AppState) (before after : FleetState) (event : Event) :
    Prop
  | spawn (db : after.db = before.db)
      (tasks : after.tasks = before.tasks ++ spawns app before event)
      (other : ∀ task succeeds, event ≠ .runTask task succeeds)
  | run (call : DbCall) (rest : List DbCall) (task : ℕ) (succeeds : Bool)
      (same : event = .runTask task succeeds)
      (found : before.tasks[task]? = some (call :: rest))
      (db : before.db.attempt before.clock call succeeds = some after.db)
      (tasks : after.tasks = before.tasks.set task rest)
  | resume (credit : CapacityCredit) (tunnel : TunnelId) (task : Tunnel)
      (succeeds : Bool) (same : event = .resume tunnel succeeds)
      (found : before.tunnels[tunnel]? = some task)
      (awaited : task.awaited = some credit)
      (db : before.db.attempt before.clock credit.call succeeds =
        some after.db)
      (tasks : after.tasks = before.tasks)

theorem db_step (taken : step app before event = some after) :
    DbStep app before after event := by
  cases event with
  | receive tunnel frame =>
      obtain ⟨task, found, -, -, ⟨msg, rfl, rfl⟩ | ⟨ends, rfl⟩ | ⟨skipped, rfl⟩⟩ :=
        stepReceive_cases taken
      · refine .spawn db_stepMessage ?_ nofun
        simp only [tasks_stepMessage, spawns, found]
      · refine .spawn db_stepClose ?_ nofun
        rw [tasks_stepClose found]
        cases frame with
        | text msg => cases ends
        | invalid => cases ends
        | control => cases ends
        | close => rfl
        | readError => rfl
        | ended => rfl
      · rcases skipped with rfl | rfl
        · exact .spawn rfl (List.append_nil _).symm nofun
        · exact .spawn rfl (List.append_nil _).symm nofun
  | tick elapsed =>
      cases taken
      exact .spawn rfl (List.append_nil _).symm nofun
  | connect =>
      cases taken
      exact .spawn rfl (List.append_nil _).symm nofun
  | resume tunnel succeeds =>
      obtain ⟨task, credit, db, awaited, found, awaits, rfl, outcome⟩ :=
        stepResume_cases taken
      refine .resume credit tunnel task succeeds rfl found awaits ?_ rfl
      rcases outcome with ⟨touched, -, attempted⟩ | ⟨untouched, -, attempted⟩
      · rw [CapacityCredit.call, if_pos touched]
        exact attempted
      · rw [CapacityCredit.call, untouched]
        exact attempted
  | write tunnel succeeds =>
      obtain ⟨task, outbox, receiving, -, -, rfl⟩ := stepWrite_cases taken
      exact .spawn rfl (List.append_nil _).symm nofun
  | writerEnd tunnel =>
      obtain ⟨task, -, -, -, -, rfl⟩ := stepWriterEnd_cases taken
      exact .spawn rfl (List.append_nil _).symm nofun
  | finish tunnel =>
      obtain ⟨task, -, -, -, rfl⟩ := stepFinish_cases taken
      exact .spawn rfl (List.append_nil _).symm nofun
  | runTask task succeeds =>
      obtain ⟨call, rest, db, found, attempted, rfl⟩ := stepRunTask_cases taken
      exact .run call rest task succeeds rfl found attempted rfl
  | request id body nodes =>
      obtain ⟨-, -, rfl⟩ := stepRequest_cases taken
      exact .spawn rfl (List.append_nil _).symm nofun
  | lookupSender id =>
      obtain ⟨_, _, _, -, -, rfl, -⟩ := stepLookupSender_cases taken
      exact .spawn rfl (List.append_nil _).symm nofun
  | registerRequest id =>
      obtain ⟨_, _, _, -, -, rfl⟩ := stepRegisterRequest_cases taken
      exact .spawn rfl (List.append_nil _).symm nofun
  | send id =>
      obtain ⟨_, _, _, _, -, -, -, ⟨-, rfl⟩ | ⟨-, rfl⟩⟩ := stepSend_cases taken
      all_goals exact .spawn rfl (List.append_nil _).symm nofun
  | recv id =>
      obtain ⟨_, _, _, -, -,
        ⟨_, _, -, -, rfl⟩ | ⟨_, _, _, -, -, -, rfl⟩ | ⟨-, -, _, rfl⟩⟩ :=
        stepRecv_cases taken
      all_goals exact .spawn rfl (List.append_nil _).symm nofun
  | disconnect id =>
      obtain ⟨_, _, _, -, -, ⟨-, rfl⟩ | ⟨-, rfl⟩⟩ := stepDisconnect_cases taken
      all_goals exact .spawn rfl (List.append_nil _).symm nofun

section Balance

variable {measure : Db → ℕ} {counts : DbCall → Bool}

/-- `measure` counts the calls that `counts` selects, and a heartbeat handler
awaits none of them. -/
structure Tallies (measure : Db → ℕ) (counts : DbCall → Bool) : Prop where
  initial : ∀ sqlite, measure { sqlite } = 0
  exec : ∀ {db now call next}, Db.exec db now call = some next →
    measure next = measure db + (if counts call then 1 else 0)
  unawaited : ∀ credit : CapacityCredit, counts credit.call = false

def spawnedCount (app : AppState) (counts : DbCall → Bool)
    (history : History FleetState Event) : ℕ :=
  (history.map fun taken =>
    (spawns app taken.1 taken.2).flatten.countP counts).sum

theorem spawnedCount_concat :
    spawnedCount app counts (history ++ [(before, event)]) =
      spawnedCount app counts history +
        (spawns app before event).flatten.countP counts := by
  simp [spawnedCount]

private theorem tally_step (tallies : Tallies measure counts)
    (succeeds : event.succeeds = true)
    (taken : step app before event = some after) :
    measure after.db + after.tasks.flatten.countP counts =
      measure before.db + before.tasks.flatten.countP counts +
        (spawns app before event).flatten.countP counts := by
  cases db_step taken with
  | spawn db tasks other =>
      rw [db, tasks, List.flatten_append, List.countP_append, Nat.add_assoc]
  | run call rest task ok same found db tasks =>
      subst same
      obtain rfl : ok = true := succeeds
      have written := tallies.exec db
      have moved := (flatten_perm_set found).countP_eq counts
      rw [List.countP_cons] at moved
      rw [tasks, written, moved]
      simp only [spawns, List.flatten_nil, List.countP_nil]
      omega
  | resume credit tunnel task ok same found awaited db tasks =>
      subst same
      obtain rfl : ok = true := succeeds
      have written := tallies.exec db
      rw [tallies.unawaited credit] at written
      rw [tasks, written]
      rfl

theorem tally_run (tallies : Tallies measure counts)
    (run : (fleetManager app).Run history final)
    (succeeding : ∀ taken ∈ history, taken.2.succeeds = true) :
    measure final.db + final.tasks.flatten.countP counts =
      spawnedCount app counts history := by
  induction run with
  | start => exact tallies.initial app.sqlite
  | next run taken ih =>
      have earlier := ih fun step inside =>
        succeeding step (List.mem_append_left _ inside)
      have now := tally_step tallies
        (succeeding _ (List.mem_append_right _ (List.mem_singleton.mpr rfl)))
        taken
      rw [now, earlier, spawnedCount_concat]

end Balance

end JwSwarm.FleetManager
