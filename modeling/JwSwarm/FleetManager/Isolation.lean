import JwSwarm.FleetManager.Requests

namespace JwSwarm.FleetManager

open Data Proto Transition Machine FleetState

/-! What one message can do to nodes other than the one its tunnel is
registered as. -/

variable {app : AppState} {history : History FleetState Event}
variable {before after final : FleetState} {tunnel : TunnelId} {task : Tunnel}
variable {msg : Message} {nodeId other : NodeId} {id : RequestId}

/-- The node for which a call records a delivery or points. -/
def DbCall.creditedNode : DbCall → Option NodeId
  | .recordDelivery _ nodeId _ _ _ => some nodeId
  | .creditPoints nodeId _ _ _ => some nodeId
  | _ => none

namespace FleetState

def queuedCredits (state : FleetState) (nodeId : NodeId) : List DbCall :=
  state.tasks.flatten.filter fun call => call.creditedNode == some nodeId

def awaitedCredits (state : FleetState) (nodeId : NodeId) :
    List (Option CapacityCredit) :=
  state.tunnels.map fun task =>
    task.awaited.filter fun credit => credit.nodeId == nodeId

/-- Whether an event sent on the request's channel finds its receiver. -/
def hears (state : FleetState) (id : RequestId) : Bool :=
  (state.calls.lookup id).any ChatCall.listening

end FleetState

/-- Handling a message on the tunnel leaves every other node's entry alone,
delivers nothing to requests dispatched to other nodes and credits nothing to
them. -/
structure Isolated (before : FleetState) (tunnel : TunnelId)
    (after : FleetState) : Prop where
  entries : ∀ nodeId, before.sessionNode tunnel ≠ some nodeId →
    after.registry.nodes.lookup nodeId = before.registry.nodes.lookup nodeId
  events : ∀ id entry, before.registry.pending.lookup id = some entry →
    before.sessionNode tunnel ≠ some entry.nodeId →
    (after.calls.lookup id).map ChatCall.inbox =
      (before.calls.lookup id).map ChatCall.inbox
  rows : after.db = before.db
  credits : ∀ nodeId, before.sessionNode tunnel ≠ some nodeId →
    after.queuedCredits nodeId = before.queuedCredits nodeId ∧
      after.awaitedCredits nodeId = before.awaitedCredits nodeId

/-- The tunnel speaks for the node, or what it says is in the registry already,
or the registry does not know the node. -/
def SpeaksFor (state : FleetState) (tunnel : TunnelId) (nodeId : NodeId)
    (change : NodeState → NodeState) : Prop :=
  state.sessionNode tunnel = some nodeId ∨
    ∀ node, state.registry.nodes.lookup nodeId = some node →
      change node = node

/-- The message carries no foreign id, or a foreign id without effect. -/
def StaysHome (state : FleetState) (tunnel : TunnelId) : Message → Prop
  | .heartbeat heartbeat =>
      SpeaksFor state tunnel heartbeat.nodeId fun node =>
        { node with
          metrics := some heartbeat.metrics
          scheduleState := heartbeat.scheduleState }
  | .modelStatus status =>
      SpeaksFor state tunnel status.nodeId fun node =>
        { node with readyModels := status.readyModels }
  | .scheduleState schedule =>
      SpeaksFor state tunnel schedule.nodeId fun node =>
        { node with scheduleState := schedule.state }
  | .tokenChunk chunk =>
      ∀ entry, state.registry.pending.lookup chunk.requestId = some entry →
        state.sessionNode tunnel = some entry.nodeId ∨
          state.hears chunk.requestId = false
  | .done done =>
      ∀ entry, state.registry.pending.lookup done.requestId = some entry →
        state.sessionNode tunnel = some entry.nodeId
  | .error error =>
      ∀ entry, state.registry.pending.lookup error.requestId = some entry →
        state.sessionNode tunnel = some entry.nodeId ∨
          state.hears error.requestId = false
  | _ => True

theorem entries_modifyNode_iff (change : NodeState → NodeState) :
    (∀ other, before.sessionNode tunnel ≠ some other →
        (before.registry.modifyNode nodeId change).nodes.lookup other =
          before.registry.nodes.lookup other) ↔
      SpeaksFor before tunnel nodeId change := by
  constructor
  · intro kept
    by_cases own : before.sessionNode tunnel = some nodeId
    · exact .inl own
    · refine .inr fun node found => ?_
      have same := kept nodeId own
      rw [Registry.lookup_modifyNode, if_pos rfl, found] at same
      exact Option.some.inj same
  · intro speaks other foreign
    rw [Registry.lookup_modifyNode]
    by_cases same : other = nodeId
    · subst same
      rw [if_pos rfl]
      rcases speaks with own | unchanged
      · exact absurd own foreign
      · cases found : before.registry.nodes.lookup other with
        | none => rfl
        | some node => exact congrArg some (unchanged node found)
    · rw [if_neg same]

private theorem offer_inbox_eq_iff {call : ChatCall} {event : RequestEvent} :
    (call.offer event).inbox = call.inbox ↔ call.listening = false := by
  unfold ChatCall.offer
  cases call.listening with
  | true => simp
  | false => simp

theorem inbox_deliver_eq_iff {event : RequestEvent} :
    ((before.deliver (some (id, event))).calls.lookup id).map ChatCall.inbox =
        (before.calls.lookup id).map ChatCall.inbox ↔
      before.hears id = false := by
  rw [lookup_deliver, if_pos rfl, hears]
  cases before.calls.lookup id with
  | none => simp
  | some call => simpa using offer_inbox_eq_iff

theorem events_dispatch_iff (run : (fleetManager app).Run history before)
    (event : RequestEvent) :
    (∀ other entry, before.registry.pending.lookup other = some entry →
        before.sessionNode tunnel ≠ some entry.nodeId →
        ((before.deliver (before.registry.dispatchEvent id event)).calls.lookup
            other).map ChatCall.inbox =
          (before.calls.lookup other).map ChatCall.inbox) ↔
      ∀ entry, before.registry.pending.lookup id = some entry →
        before.sessionNode tunnel = some entry.nodeId ∨
          before.hears id = false := by
  cases pending : before.registry.pending.lookup id with
  | none => simp [Registry.dispatchEvent, pending, deliver]
  | some entry =>
      have sent : before.registry.dispatchEvent id event =
          some (id, event) := by
        rw [Registry.dispatchEvent, pending, Option.map_some,
          pending_tx run pending]
      rw [sent]
      constructor
      · intro kept _ same
        obtain rfl := Option.some.inj same
        by_cases own : before.sessionNode tunnel = some entry.nodeId
        · exact .inl own
        · exact .inr (inbox_deliver_eq_iff.mp (kept id entry pending own))
      · intro home other otherEntry found foreign
        by_cases same : other = id
        · subst same
          obtain rfl := Option.some.inj (pending.symm.trans found)
          rcases home entry rfl with own | gone
          · exact absurd own foreign
          · exact inbox_deliver_eq_iff.mpr gone
        · rw [lookup_deliver, if_neg same]

theorem credits_append_iff (spawned : List (List DbCall)) :
    (before.tasks ++ spawned).flatten.filter
          (fun call => call.creditedNode == some nodeId) =
        before.queuedCredits nodeId ↔
      ∀ calls ∈ spawned, ∀ call ∈ calls,
        call.creditedNode ≠ some nodeId := by
  rw [queuedCredits, List.flatten_append, List.filter_append,
    List.append_right_eq_self, List.filter_eq_nil_iff]
  simp only [List.mem_flatten, beq_iff_eq]
  exact ⟨fun none calls inside call member =>
      none call ⟨calls, inside, member⟩,
    fun none call ⟨calls, inside, member⟩ => none calls inside call member⟩

private theorem awaited_handleMessage {credit : CapacityCredit}
    (awaits : (handleMessage app before.registry tunnel task.session
      before.clock msg).awaited = some credit) :
    task.session.map Session.nodeId = some credit.nodeId := by
  obtain ⟨own, session, same, -⟩ := awaited_cases awaits
  rw [session, same]
  rfl

private theorem awaitedCredits_stepMessage
    (found : before.tunnels[tunnel]? = some task) (idle : task.awaited = none)
    (foreign : before.sessionNode tunnel ≠ some nodeId) :
    (stepMessage app before tunnel task msg).awaitedCredits nodeId =
      before.awaitedCredits nodeId := by
  have unheeded : ((handleMessage app before.registry tunnel task.session
      before.clock msg).awaited.filter
        fun credit => credit.nodeId == nodeId) = none := by
    rw [Option.filter_eq_none_iff]
    intro credit awaits
    have own := awaited_handleMessage awaits
    simp only [sessionNode, found, Option.bind_some, own] at foreign
    simpa using foreign
  simp only [awaitedCredits, stepMessage, tunnels_deliver]
  refine map_set_of_eq _ found ?_
  simp only [unheeded, idle, Option.filter_none]

private theorem isolated_stepMessage_iff
    (found : before.tunnels[tunnel]? = some task)
    (idle : task.awaited = none) :
    Isolated before tunnel (stepMessage app before tunnel task msg) ↔
      (∀ other, before.sessionNode tunnel ≠ some other →
        (handleMessage app before.registry tunnel task.session before.clock
            msg).registry.nodes.lookup other =
          before.registry.nodes.lookup other) ∧
      (∀ id entry, before.registry.pending.lookup id = some entry →
        before.sessionNode tunnel ≠ some entry.nodeId →
        ((before.deliver (handleMessage app before.registry tunnel task.session
            before.clock msg).delivered).calls.lookup id).map
              ChatCall.inbox =
          (before.calls.lookup id).map ChatCall.inbox) ∧
      (∀ other, before.sessionNode tunnel ≠ some other →
        ∀ calls ∈ (handleMessage app before.registry tunnel task.session
            before.clock msg).spawned,
          ∀ call ∈ calls, call.creditedNode ≠ some other) := by
  constructor
  · rintro ⟨entries, events, -, credits⟩
    rw [registry_stepMessage] at entries
    rw [calls_stepMessage] at events
    refine ⟨entries, events, fun other foreign => ?_⟩
    have same := (credits other foreign).1
    rw [queuedCredits, tasks_stepMessage] at same
    exact (credits_append_iff _).mp same
  · rintro ⟨entries, events, credits⟩
    refine ⟨?_, ?_, db_stepMessage, fun other foreign => ⟨?_, ?_⟩⟩
    · rw [registry_stepMessage]
      exact entries
    · rw [calls_stepMessage]
      exact events
    · rw [queuedCredits, tasks_stepMessage]
      exact (credits_append_iff _).mpr (credits other foreign)
    · exact awaitedCredits_stepMessage found idle foreign

private theorem credits_deliveryTask {session : Option Session} {done : Done}
    {entry : PendingMeta} {call : DbCall}
    (member : call ∈ deliveryTask app before.registry session done entry) :
    call.creditedNode = some entry.nodeId := by
  simp only [deliveryTask, List.mem_cons, List.not_mem_nil, or_false] at member
  rcases member with rfl | rfl
  · rfl
  · rfl

private theorem credits_done_iff (app : AppState) (session : Option Session)
    (done : Done) :
    (∀ other, before.sessionNode tunnel ≠ some other →
        ∀ calls ∈ (handleDone app before.registry session done).spawned,
          ∀ call ∈ calls, call.creditedNode ≠ some other) ↔
      ∀ entry, before.registry.pending.lookup done.requestId = some entry →
        before.sessionNode tunnel = some entry.nodeId := by
  simp only [handleDone, Registry.getPending]
  cases before.registry.pending.lookup done.requestId with
  | none => simp
  | some entry =>
      simp only [Option.toList_some, List.map_cons, List.map_nil,
        List.mem_singleton, forall_eq, Option.some.injEq, forall_eq']
      constructor
      · intro spared
        by_contra foreign
        exact spared entry.nodeId foreign
          (.recordDelivery done.requestId entry.nodeId entry.model done.usage
            (recordedLatency before.registry entry.nodeId))
          (List.mem_cons_self ..) rfl
      · intro own other foreign call member credited
        rw [credits_deliveryTask member] at credited
        exact foreign (own.trans credited)

private theorem isolated_message_iff
    (run : (fleetManager app).Run history before)
    (other : msg.isRegister = false)
    (found : before.tunnels[tunnel]? = some task)
    (idle : task.awaited = none) :
    Isolated before tunnel (stepMessage app before tunnel task msg) ↔
      StaysHome before tunnel msg := by
  rw [isolated_stepMessage_iff found idle]
  have silent : ∀ id (entry : PendingMeta),
      before.registry.pending.lookup id = some entry →
      before.sessionNode tunnel ≠ some entry.nodeId →
      ((before.deliver none).calls.lookup id).map ChatCall.inbox =
        (before.calls.lookup id).map ChatCall.inbox :=
    fun _ _ _ _ => rfl
  cases msg with
  | register register => cases other
  | catalogRequest =>
      exact iff_of_true ⟨fun _ _ => rfl, silent,
        fun _ _ _ member => by cases member⟩ trivial
  | heartbeat heartbeat =>
      simp only [handleMessage, StaysHome, registry_handleHeartbeat,
        spawned_handleHeartbeat, delivered_handleHeartbeat]
      rw [← entries_modifyNode_iff]
      exact ⟨fun all => all.1, fun entries =>
        ⟨entries, silent, fun _ _ _ member => by cases member⟩⟩
  | modelStatus status =>
      simp only [handleMessage, StaysHome]
      rw [← entries_modifyNode_iff]
      exact ⟨fun all => all.1, fun entries =>
        ⟨entries, silent, fun _ _ _ member => by cases member⟩⟩
  | scheduleState schedule =>
      simp only [handleMessage, StaysHome]
      rw [← entries_modifyNode_iff]
      exact ⟨fun all => all.1, fun entries =>
        ⟨entries, silent, fun _ _ _ member => by cases member⟩⟩
  | tokenChunk chunk =>
      rw [StaysHome, ← events_dispatch_iff run (.chunk chunk)]
      exact ⟨fun all => all.2.1, fun events =>
        ⟨fun _ _ => rfl, events, fun _ _ _ member => by cases member⟩⟩
  | done done =>
      have credits : (_ ↔ StaysHome before tunnel (.done done)) :=
        credits_done_iff app task.session done
      rw [← credits]
      refine ⟨fun all => all.2.2, fun spared =>
        ⟨fun _ _ => rfl, ?_, spared⟩⟩
      apply (events_dispatch_iff run (.done done)).mpr
      intro entry pending
      exact .inl (credits.mp spared entry pending)
  | error error =>
      rw [StaysHome, ← events_dispatch_iff run (.error error)]
      exact ⟨fun all => all.2.1, fun events =>
        ⟨fun _ _ => rfl, events, fun _ _ _ member => by cases member⟩⟩
  | catalogResponse response =>
      exact iff_of_true ⟨fun _ _ => rfl, silent,
        fun _ _ _ member => by cases member⟩ trivial
  | promptDispatch dispatch =>
      exact iff_of_true ⟨fun _ _ => rfl, silent,
        fun _ _ _ member => by cases member⟩ trivial

/-- A message other than `Register` is isolated exactly when it stays home. -/
theorem isolated_iff_staysHome
    (run : (fleetManager app).Run history before)
    (other : msg.isRegister = false)
    (taken : (fleetManager app).step before (.receive tunnel (.text msg)) =
      some after) :
    Isolated before tunnel after ↔ StaysHome before tunnel msg := by
  obtain ⟨task, found, -, idle, rfl⟩ := stepReceive_text taken
  exact isolated_message_iff run other found idle

theorem isolated_iff_staysHome_own :
    ∃ history before after, (fleetManager bareApp).Run history before ∧
      (fleetManager bareApp).step before
        (.receive 0 (.text (.scheduleState ⟨"a", .awake⟩))) = some after ∧
      Isolated before 0 after := by
  obtain ⟨history, before, run, observed⟩ :=
    (fleetManager bareApp).exists_run_of_trace
      [.connect, .receive 0 (.text (.register (plainRegister "a")))]
      (fun outcome => outcome.2.sessionNode 0 = some "a" ∧
        ((fleetManager bareApp).step outcome.2
          (.receive 0 (.text (.scheduleState ⟨"a", .awake⟩)))).isSome)
      (by decide +kernel)
  obtain ⟨own, enabled⟩ := of_decide_eq_true observed
  obtain ⟨after, taken⟩ := Option.isSome_iff_exists.mp enabled
  exact ⟨history, before, after, run, taken,
    (isolated_iff_staysHome run rfl taken).mpr (.inl own)⟩

/-- A tunnel registered as `a` drains node `b`. -/
theorem forged_schedule_breaks_isolation :
    ∃ history before after, (fleetManager bareApp).Run history before ∧
      (fleetManager bareApp).step before
        (.receive 0 (.text (.scheduleState ⟨"b", .draining⟩))) = some after ∧
      before.sessionNode 0 = some "a" ∧ ¬ Isolated before 0 after := by
  obtain ⟨history, before, run, observed⟩ :=
    (fleetManager bareApp).exists_run_of_trace
      [.connect, .receive 0 (.text (.register (plainRegister "a"))),
        .connect, .receive 1 (.text (.register (plainRegister "b")))]
      (fun outcome => outcome.2.sessionNode 0 = some "a" ∧
        ((fleetManager bareApp).step outcome.2
          (.receive 0 (.text (.scheduleState ⟨"b", .draining⟩)))).any
            fun after => after.registry.nodes.lookup "b" ≠
              outcome.2.registry.nodes.lookup "b")
      (by decide +kernel)
  obtain ⟨own, changed⟩ := of_decide_eq_true observed
  obtain ⟨after, taken, changed⟩ := (Option.any_eq_true _ _).mp changed
  refine ⟨history, before, after, run, taken, own, fun isolated => ?_⟩
  have foreign : before.sessionNode 0 ≠ some "b" := by
    rw [own]
    decide
  exact of_decide_eq_true changed (isolated.entries "b" foreign)

end JwSwarm.FleetManager
