import JwSwarm.FleetManager.Steps

namespace JwSwarm.FleetManager

open Data Proto Transition Machine FleetState

/-! Capacity credit against awake time. A heartbeat is credited backwards to the
previous heartbeat of its own tunnel, whatever the registry showed in between. -/

variable {app : AppState} {history : History FleetState Event}
variable {before after final : FleetState} {event : Event}
variable {tunnel : TunnelId} {task : Tunnel} {nodeId : NodeId}

namespace FleetState

def showsAwake (state : FleetState) (nodeId : NodeId) : Bool :=
  (state.registry.nodes.lookup nodeId).any
    fun node => node.scheduleState == .awake

/-- The credit that the step's heartbeat earns, not yet written. -/
def earns (app : AppState) (state : FleetState) :
    Event → Option CapacityCredit
  | .receive tunnel (.text msg) =>
      state.tunnels[tunnel]?.bind fun task =>
        (handleMessage app state.registry tunnel task.session state.clock
          msg).awaited
  | _ => none

/-- The milliseconds that the step credits to the node through capacity
points. -/
def credits (state : FleetState) (nodeId : NodeId) : Event → ℕ
  | .resume tunnel succeeds =>
      match state.tunnels[tunnel]?.bind Tunnel.awaited with
      | some credit =>
          if credit.touched && succeeds && credit.nodeId == nodeId then
            credit.deltaMs
          else 0
      | none => 0
  | _ => 0

/-- The milliseconds of the step during which the node is shown awake. -/
def awake (state : FleetState) (nodeId : NodeId) : Event → ℕ
  | .tick elapsed => if state.showsAwake nodeId then elapsed else 0
  | _ => 0

end FleetState

def creditedMs (history : History FleetState Event) (nodeId : NodeId) : ℕ :=
  (history.map fun taken => taken.1.credits nodeId taken.2).sum

def awakeMs (history : History FleetState Event) (nodeId : NodeId) : ℕ :=
  (history.map fun taken => taken.1.awake nodeId taken.2).sum

def CreditWithinAwake (history : History FleetState Event)
    (_ : FleetState) : Prop :=
  ∀ nodeId, creditedMs history nodeId ≤ awakeMs history nodeId

/-- How long the node has been shown awake without a break since the last
heartbeat that earned it credit. -/
def freshAwake (app : AppState) (nodeId : NodeId) :
    History FleetState Event → ℕ :=
  List.foldl (fun fresh taken =>
    match taken.2 with
    | .tick elapsed =>
        if taken.1.showsAwake nodeId then fresh + elapsed
        else if elapsed = 0 then fresh
        else 0
    | event =>
        if (taken.1.earns app event).any fun credit => credit.nodeId == nodeId
        then 0
        else fresh) 0

/-- The interval that a heartbeat is credited for lies within fresh awake
time. -/
def spansAwake (app : AppState) (history : History FleetState Event)
    (state : FleetState) (event : Event) : Bool :=
  (state.earns app event).all fun credit =>
    credit.deltaMs ≤ freshAwake app credit.nodeId history

def Tunnel.owes (nodeId : NodeId) (task : Tunnel) : ℕ :=
  match task.awaited with
  | some credit => if credit.nodeId = nodeId then credit.deltaMs else 0
  | none => 0

def owedMs (state : FleetState) (nodeId : NodeId) : ℕ :=
  (state.tunnels.map (Tunnel.owes nodeId)).sum

def earnedMs (app : AppState) (state : FleetState) (nodeId : NodeId)
    (event : Event) : ℕ :=
  match state.earns app event with
  | some credit => if credit.nodeId = nodeId then credit.deltaMs else 0
  | none => 0

section Held

variable {γ : Type} [AddCommMonoid γ] (weight : CapacityCredit → γ)

def Tunnel.held (task : Tunnel) : γ :=
  match task.awaited with
  | some credit => weight credit
  | none => 0

def FleetState.held (state : FleetState) : γ :=
  (state.tunnels.map (Tunnel.held weight)).sum

theorem held_set {new : Tunnel} (after : FleetState)
    (found : before.tunnels[tunnel]? = some task)
    (changed : after.tunnels = before.tunnels.set tunnel new) :
    after.held weight + task.held weight =
      before.held weight + new.held weight := by
  rw [held, changed, held]
  exact sum_map_set_add (Tunnel.held weight) found

theorem held_receive {frame : Inbound}
    (taken : step app before (.receive tunnel frame) = some after) :
    after.held weight = before.held weight +
      ((before.earns app (.receive tunnel frame)).map weight).getD 0 := by
  obtain ⟨task, found, -, idle, outcome⟩ := stepReceive_cases taken
  have nothing : task.held weight = 0 := by
    rw [Tunnel.held, idle]
  rcases outcome with ⟨msg, rfl, rfl⟩ | ⟨ends, rfl⟩ | ⟨skipped, rfl⟩
  · have moved := held_set weight (stepMessage app before tunnel task msg)
      found (tunnels_deliver _)
    rw [nothing, add_zero] at moved
    rw [moved, earns, found, Option.bind_some]
    apply congrArg
    unfold Tunnel.held
    cases (handleMessage app before.registry tunnel task.session
      before.clock msg).awaited with
    | none => rfl
    | some credit => rfl
  · have closed : (stepClose before tunnel task).tunnels =
        before.tunnels.set tunnel { task with phase := .closing } := by
      unfold stepClose
      cases task.session with
      | none => rfl
      | some session => rfl
    have moved := held_set weight (stepClose before tunnel task) found closed
    have same : Tunnel.held weight { task with phase := .closing } =
        task.held weight := rfl
    have unearned : before.earns app (.receive tunnel frame) = none := by
      cases frame with
      | text msg => cases ends
      | _ => rfl
    rw [same, nothing, add_zero] at moved
    rw [moved, unearned]
    rfl
  · rcases skipped with rfl | rfl
    · exact (add_zero _).symm
    · exact (add_zero _).symm

theorem held_quiet (taken : step app before event = some after)
    (quiet : event.isReceive = false)
    (other : ∀ tunnel succeeds, event ≠ .resume tunnel succeeds) :
    after.held weight = before.held weight := by
  obtain ⟨joined, holds, blank⟩ :=
    tunnels_quiet_map (Tunnel.held weight) taken quiet (fun _ _ _ => rfl)
      (fun _ _ => rfl)
      (fun tunnel succeeds same => absurd same (other tunnel succeeds))
  rw [held, holds, List.sum_append, held]
  rcases blank with rfl | rfl
  · rw [List.sum_nil, add_zero]
  · rw [List.sum_singleton, Tunnel.held, add_zero]

end Held

theorem owedMs_eq_held (state : FleetState) (nodeId : NodeId) :
    owedMs state nodeId = state.held fun credit =>
      if credit.nodeId = nodeId then credit.deltaMs else 0 :=
  rfl

private theorem owedMs_set {new : Tunnel} (after : FleetState) (nodeId : NodeId)
    (found : before.tunnels[tunnel]? = some task)
    (changed : after.tunnels = before.tunnels.set tunnel new) :
    owedMs after nodeId + task.owes nodeId =
      owedMs before nodeId + new.owes nodeId :=
  held_set _ after found changed

private theorem owed_resume {succeeds : Bool} (nodeId : NodeId)
    (taken : step app before (.resume tunnel succeeds) = some after) :
    owedMs after nodeId + before.credits nodeId (.resume tunnel succeeds) ≤
      owedMs before nodeId := by
  obtain ⟨task, credit, db, awaited, found, awaits, rfl, outcome⟩ :=
    stepResume_cases taken
  have moved := owedMs_set { before with
    db, tunnels := before.tunnels.set tunnel { task with awaited } }
    nodeId found rfl
  rcases outcome with ⟨touched, rfl, -⟩ | ⟨untouched, rfl, -⟩
  · have atMost : before.credits nodeId (.resume tunnel succeeds) ≤
        task.owes nodeId := by
      simp only [credits, found, Option.bind_some, awaits, Tunnel.owes]
      split
      · next chosen => simp_all
      · exact Nat.zero_le _
    have none : Tunnel.owes nodeId { task with awaited := none } = 0 := rfl
    omega
  · have nothing : before.credits nodeId (.resume tunnel succeeds) = 0 := by
      simp [credits, found, awaits, untouched]
    have same : Tunnel.owes nodeId
        { task with awaited := some { credit with touched := true } } =
          task.owes nodeId := by
      simp [Tunnel.owes, awaits]
    omega

private theorem owed_receive {frame : Inbound} (nodeId : NodeId)
    (taken : step app before (.receive tunnel frame) = some after) :
    owedMs after nodeId = owedMs before nodeId +
      earnedMs app before nodeId (.receive tunnel frame) := by
  rw [owedMs_eq_held, held_receive _ taken, ← owedMs_eq_held, earnedMs]
  cases before.earns app (.receive tunnel frame) with
  | none => rfl
  | some credit => rfl

private theorem owed_quiet (nodeId : NodeId)
    (taken : step app before event = some after)
    (quiet : event.isReceive = false)
    (other : ∀ tunnel succeeds, event ≠ .resume tunnel succeeds) :
    owedMs after nodeId = owedMs before nodeId :=
  held_quiet _ taken quiet other

theorem owed_step (nodeId : NodeId)
    (taken : step app before event = some after) :
    owedMs after nodeId + before.credits nodeId event ≤
      owedMs before nodeId + earnedMs app before nodeId event := by
  cases event with
  | receive tunnel frame => exact (owed_receive nodeId taken).le
  | resume tunnel succeeds => exact owed_resume nodeId taken
  | _ => exact (owed_quiet nodeId taken rfl nofun).le

private theorem freshAwake_tick {elapsed : ℕ} :
    freshAwake app nodeId (history ++ [(before, .tick elapsed)]) =
      if before.showsAwake nodeId then
        freshAwake app nodeId history + elapsed
      else if elapsed = 0 then freshAwake app nodeId history
      else 0 :=
  List.foldl_concat ..

theorem freshAwake_concat (other : ∀ elapsed, event ≠ .tick elapsed) :
    freshAwake app nodeId (history ++ [(before, event)]) =
      if (before.earns app event).any fun credit => credit.nodeId == nodeId
      then 0
      else freshAwake app nodeId history := by
  rw [freshAwake, List.foldl_concat]
  cases event with
  | tick elapsed => exact absurd rfl (other elapsed)
  | _ => rfl

private theorem freshAwake_le (app : AppState)
    (history : History FleetState Event)
    (before : FleetState) (event : Event) (nodeId : NodeId) :
    freshAwake app nodeId (history ++ [(before, event)]) ≤
      freshAwake app nodeId history + before.awake nodeId event := by
  by_cases tick : ∃ elapsed, event = .tick elapsed
  · obtain ⟨elapsed, rfl⟩ := tick
    rw [freshAwake_tick, FleetState.awake]
    split
    · exact Nat.le_refl _
    · split
      · exact Nat.le_add_right _ _
      · exact Nat.zero_le _
  · rw [freshAwake_concat fun elapsed same => tick ⟨elapsed, same⟩]
    split
    · exact Nat.zero_le _
    · exact Nat.le_add_right _ _

private theorem freshAwake_spent {credit : CapacityCredit}
    (earned : before.earns app event = some credit)
    (same : credit.nodeId = nodeId) :
    freshAwake app nodeId (history ++ [(before, event)]) = 0 := by
  have other : ∀ elapsed, event ≠ .tick elapsed := by
    rintro elapsed rfl
    cases earned
  rw [freshAwake_concat other, earned]
  simp [same]

private theorem budget_kept (nodeId : NodeId)
    (budget : creditedMs history nodeId + owedMs before nodeId +
      freshAwake app nodeId history ≤ awakeMs history nodeId)
    (spans : spansAwake app history before event = true)
    (taken : step app before event = some after) :
    creditedMs (history ++ [(before, event)]) nodeId + owedMs after nodeId +
        freshAwake app nodeId (history ++ [(before, event)]) ≤
      awakeMs (history ++ [(before, event)]) nodeId := by
  have owed := owed_step nodeId taken
  have fresh := freshAwake_le app history before event nodeId
  have credited : creditedMs (history ++ [(before, event)]) nodeId =
      creditedMs history nodeId + before.credits nodeId event := by
    simp [creditedMs]
  have awake : awakeMs (history ++ [(before, event)]) nodeId =
      awakeMs history nodeId + before.awake nodeId event := by
    simp [awakeMs]
  by_cases mine : ∃ credit, before.earns app event = some credit ∧
      credit.nodeId = nodeId
  · obtain ⟨credit, earned, same⟩ := mine
    have empty : freshAwake app nodeId (history ++ [(before, event)]) = 0 :=
      freshAwake_spent earned same
    have within : credit.deltaMs ≤ freshAwake app nodeId history := by
      simpa [spansAwake, earned, same] using spans
    have amount : earnedMs app before nodeId event = credit.deltaMs := by
      simp [earnedMs, earned, same]
    omega
  · have amount : earnedMs app before nodeId event = 0 := by
      unfold earnedMs
      cases earned : before.earns app event with
      | none => rfl
      | some credit =>
          exact if_neg fun same => mine ⟨credit, earned, same⟩
    omega

private theorem budget_run (nodeId : NodeId)
    (run : (fleetManager app).Run history final)
    (guarded : Guarded
      (fun earlier state event => spansAwake app earlier state event = true)
      history) :
    creditedMs history nodeId + owedMs final nodeId +
      freshAwake app nodeId history ≤ awakeMs history nodeId := by
  induction run with
  | start => exact Nat.le_refl 0
  | next run taken ih =>
      obtain ⟨guarded, spans⟩ := guarded_concat.mp guarded
      exact budget_kept nodeId (ih guarded) spans taken

/-- As long as every credited heartbeat covers fresh awake time, no node is
credited for more than the time it was shown awake. -/
theorem creditWithinAwake_along
    (guarded : Guarded
      (fun earlier state event => spansAwake app earlier state event = true)
      history) :
    (fleetManager app).Along CreditWithinAwake history := by
  intro earlier state inside reached nodeId
  have budget := budget_run nodeId reached (guarded.of_prefix inside)
  omega

theorem creditWithinAwake_along_awake :
    ∃ history final, (fleetManager bareApp).Run history final ∧
      creditedMs history "node" = 1000 ∧
      (fleetManager bareApp).Along CreditWithinAwake history := by
  obtain ⟨history, final, run, observed⟩ :=
    (fleetManager bareApp).exists_run_of_trace
      [.connect, .receive 0 (.text (.register (plainRegister "node"))),
        .runTask 0 true, .runTask 0 true,
        .receive 0 (.text (.heartbeat ⟨"node", idleMetrics, .awake⟩)),
        .tick 1000,
        .receive 0 (.text (.heartbeat ⟨"node", idleMetrics, .awake⟩)),
        .resume 0 false, .resume 0 true]
      (fun outcome => creditedMs outcome.1 "node" = 1000 ∧
        admits (spansAwake bareApp) [] outcome.1 = true)
      (by decide +kernel)
  obtain ⟨credited, admitted⟩ := of_decide_eq_true observed
  exact ⟨history, final, run, credited,
    creditWithinAwake_along (guarded_of_admits admitted)⟩

/-- A node that was asleep for a second is credited for it when it wakes. -/
theorem sleeping_time_is_credited :
    ∃ history final, (fleetManager bareApp).Run history final ∧
      creditedMs history "node" = 1000 ∧ awakeMs history "node" = 0 ∧
      ¬ CreditWithinAwake history final := by
  obtain ⟨history, final, run, observed⟩ :=
    (fleetManager bareApp).exists_run_of_trace
      [.connect, .receive 0 (.text (.register (plainRegister "node"))),
        .runTask 0 true, .runTask 0 true,
        .receive 0 (.text (.heartbeat ⟨"node", idleMetrics, .asleep⟩)),
        .tick 1000,
        .receive 0 (.text (.heartbeat ⟨"node", idleMetrics, .awake⟩)),
        .resume 0 false, .resume 0 true]
      (fun outcome => creditedMs outcome.1 "node" = 1000 ∧
        awakeMs outcome.1 "node" = 0)
      (by decide +kernel)
  obtain ⟨credited, awake⟩ := of_decide_eq_true observed
  refine ⟨history, final, run, credited, awake, fun holds => ?_⟩
  have within := holds "node"
  rw [show creditedMs history "node" = 1000 from credited,
    show awakeMs history "node" = 0 from awake] at within
  omega

end JwSwarm.FleetManager
