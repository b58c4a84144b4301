import JwSwarm.FleetManager.Steps

namespace JwSwarm.FleetManager

open Data Proto Transition Machine

/-! Who owns a registry entry: read off the history, and compared with what the
registry holds. -/

variable {app : AppState} {history : History FleetState Event}
variable {before after final : FleetState} {event : Event}
variable {nodeId other : NodeId} {tunnel : TunnelId}

def Event.registersAs (nodeId : NodeId) : Event → Option TunnelId
  | .receive tunnel (.text (.register register)) =>
      if register.nodeId = nodeId then some tunnel else none
  | _ => none

/-- The tunnel that most recently sent a `Register` with this node id. -/
def lastRegistrant (history : History FleetState Event) (nodeId : NodeId) :
    Option TunnelId :=
  history.reverse.findSome? fun taken => taken.2.registersAs nodeId

/-- The last registrant, if its read loop still runs and it has not registered
under another id since. -/
def owner (history : History FleetState Event) (state : FleetState)
    (nodeId : NodeId) : Option TunnelId :=
  (lastRegistrant history nodeId).filter fun tunnel =>
    state.standings[tunnel]? = some (true, some nodeId)

def Ownership (history : History FleetState Event) (state : FleetState) :
    Prop :=
  ∀ nodeId, state.registry.nodeSender nodeId = owner history state nodeId

/-- A `Register` under a new id comes from a tunnel that is not in the registry
under another one; a tunnel ends only when its node's entry, if any, is its
own. -/
def KeepsOwnership (state : FleetState) : Event → Prop
  | .receive tunnel (.text (.register register)) =>
      ∀ other, other ≠ register.nodeId →
        state.registry.nodeSender other ≠ some tunnel
  | .receive tunnel frame =>
      frame.ends = true →
        ∀ nodeId sender, state.sessionNode tunnel = some nodeId →
          state.registry.nodeSender nodeId = some sender → sender = tunnel
  | _ => True

theorem lastRegistrant_concat :
    lastRegistrant (history ++ [(before, event)]) nodeId =
      (event.registersAs nodeId).or (lastRegistrant history nodeId) := by
  simp only [lastRegistrant, List.reverse_append, List.reverse_cons,
    List.reverse_nil, List.nil_append, List.cons_append, List.findSome?_cons]
  cases event.registersAs nodeId with
  | none => rfl
  | some tunnel => rfl

theorem owner_eq_some_iff :
    owner history final nodeId = some tunnel ↔
      lastRegistrant history nodeId = some tunnel ∧
        final.standings[tunnel]? = some (true, some nodeId) := by
  simp [owner, Option.filter_eq_some_iff]

theorem owner_standings_set {standing : Bool × Option NodeId}
    (same : event.registersAs nodeId = none)
    (changed : after.standings = before.standings.set tunnel standing)
    (otherwise : standing ≠ (true, some nodeId)) :
    owner (history ++ [(before, event)]) after nodeId =
      (owner history before nodeId).filter fun sender => sender ≠ tunnel := by
  rw [owner, owner, lastRegistrant_concat, same, Option.none_or, changed,
    Option.filter_filter]
  congr 1
  funext sender
  rw [List.getElem?_set]
  by_cases here : tunnel = sender
  · subst here
    simp [otherwise]
  · have elsewhere : sender ≠ tunnel := fun same => here same.symm
    simp [here, elsewhere]

theorem ownership_kept
    (same : ∀ nodeId, event.registersAs nodeId = none)
    (senders : ∀ nodeId, after.registry.nodeSender nodeId =
      before.registry.nodeSender nodeId)
    (standings : ∀ (tunnel : TunnelId) (nodeId : NodeId),
      after.standings[tunnel]? = some (true, some nodeId) ↔
        before.standings[tunnel]? = some (true, some nodeId))
    (holds : Ownership history before) :
    Ownership (history ++ [(before, event)]) after := by
  intro nodeId
  rw [senders, holds nodeId, owner, owner, lastRegistrant_concat, same,
    Option.none_or]
  congr 1
  funext tunnel
  exact decide_eq_decide.mpr (standings tunnel nodeId).symm

private theorem standing_append_blank
    {standings joined : List (Bool × Option NodeId)}
    (blank : joined = [] ∨ joined = [(true, none)]) :
    (standings ++ joined)[tunnel]? = some (true, some nodeId) ↔
      standings[tunnel]? = some (true, some nodeId) := by
  rw [List.getElem?_append]
  split
  · rfl
  · next outside =>
      rw [List.getElem?_eq_none (l := standings) (by omega)]
      rcases blank with rfl | rfl
      · simp
      · simp [List.getElem?_singleton]

private theorem nodeSender_upsertNode (registry : Registry)
    (register : Register) :
    (registry.upsertNode register tunnel).nodeSender nodeId =
      if nodeId = register.nodeId then some tunnel
      else registry.nodeSender nodeId := by
  rw [Registry.nodeSender, Registry.lookup_upsertNode]
  split <;> rfl

private theorem nodeSender_removeNode (registry : Registry) :
    (registry.removeNode other).nodeSender nodeId =
      if nodeId = other then none else registry.nodeSender nodeId := by
  rw [Registry.nodeSender, Registry.lookup_removeNode]
  split <;> rfl

theorem filter_ne_eq_self_iff {sender : Option TunnelId} :
    (sender = sender.filter fun sender => sender ≠ tunnel) ↔
      sender ≠ some tunnel := by
  cases sender with
  | none => simp
  | some sender => simp [Option.filter]

private theorem ownership_register_iff {task : Tunnel} {register : Register}
    (reading : task.phase = .reading)
    (inside : tunnel < before.standings.length)
    (holds : Ownership history before) :
    Ownership (history ++
        [(before, .receive tunnel (.text (.register register)))])
        (stepMessage app before tunnel task (.register register)) ↔
      ∀ other, other ≠ register.nodeId →
        before.registry.nodeSender other ≠ some tunnel := by
  have changed : (stepMessage app before tunnel task
      (.register register)).standings =
        before.standings.set tunnel (true, some register.nodeId) :=
    standings_stepMessage reading
  have senders (nodeId : NodeId) : (stepMessage app before tunnel task
      (.register register)).registry.nodeSender nodeId =
        if nodeId = register.nodeId then some tunnel
        else before.registry.nodeSender nodeId := by
    rw [registry_stepMessage]
    exact nodeSender_upsertNode ..
  have owned : owner (history ++
      [(before, .receive tunnel (.text (.register register)))])
      (stepMessage app before tunnel task (.register register))
      register.nodeId = some tunnel := by
    rw [owner_eq_some_iff, lastRegistrant_concat, changed]
    simp [Event.registersAs, inside]
  have others (other : NodeId) (different : other ≠ register.nodeId) :
      (stepMessage app before tunnel task
          (.register register)).registry.nodeSender other =
        owner (history ++
          [(before, .receive tunnel (.text (.register register)))])
          (stepMessage app before tunnel task (.register register)) other ↔
      before.registry.nodeSender other ≠ some tunnel := by
    have unregistered : (Event.receive tunnel
        (.text (.register register))).registersAs other = none :=
      if_neg different.symm
    have moved : (true, some register.nodeId) ≠ (true, some other) := by
      simpa using different.symm
    rw [senders, if_neg different,
      owner_standings_set unregistered changed moved, ← holds other]
    exact filter_ne_eq_self_iff
  constructor
  · intro kept other different
    exact (others other different).mp (kept other)
  · intro vacant nodeId
    by_cases same : nodeId = register.nodeId
    · rw [same, owned, senders, if_pos rfl]
    · exact (others nodeId same).mpr (vacant nodeId same)

private theorem ownership_close_iff {task : Tunnel} {frame : Inbound}
    (found : before.tunnels[tunnel]? = some task)
    (reading : task.phase = .reading) (ends : frame.ends = true)
    (holds : Ownership history before) :
    Ownership (history ++ [(before, .receive tunnel frame)])
        (stepClose before tunnel task) ↔
      ∀ nodeId sender, before.sessionNode tunnel = some nodeId →
        before.registry.nodeSender nodeId = some sender →
          sender = tunnel := by
  have unregistered (nodeId : NodeId) :
      (Event.receive tunnel frame).registersAs nodeId = none := by
    cases frame with
    | text msg => cases ends
    | _ => rfl
  have owned (nodeId : NodeId) :
      owner (history ++ [(before, .receive tunnel frame)])
        (stepClose before tunnel task) nodeId =
      (before.registry.nodeSender nodeId).filter fun sender =>
        sender ≠ tunnel := by
    rw [owner_standings_set (unregistered nodeId) standings_stepClose
      (by simp), holds nodeId]
  have registered (nodeId : NodeId)
      (entry : before.registry.nodeSender nodeId = some tunnel) :
      task.session.map Session.nodeId = some nodeId := by
    rw [holds nodeId, owner_eq_some_iff, standing_of_reading found reading,
      sessionNode_eq found] at entry
    simpa using entry.2
  rw [sessionNode_eq found]
  cases session : task.session with
  | none =>
      refine ⟨fun _ nodeId sender known => by simp at known,
        fun _ nodeId => ?_⟩
      have same : (stepClose before tunnel task).registry =
          before.registry := by
        simp [stepClose, session, FleetState.setTunnel]
      rw [owned, same, filter_ne_eq_self_iff]
      intro entry
      simpa [session] using registered nodeId entry
  | some own =>
      have senders (nodeId : NodeId) :
          (stepClose before tunnel task).registry.nodeSender nodeId =
            if nodeId = own.nodeId then none
            else before.registry.nodeSender nodeId := by
        simp only [stepClose, session]
        exact nodeSender_removeNode ..
      constructor
      · intro kept nodeId sender known entry
        obtain rfl : own.nodeId = nodeId := by simpa using known
        have gone := kept own.nodeId
        rw [senders, if_pos rfl, owned, entry] at gone
        simpa [Option.filter] using gone
      · intro alone nodeId
        rw [senders, owned]
        by_cases same : nodeId = own.nodeId
        · subst same
          rw [if_pos rfl, eq_comm, Option.filter_eq_none_iff]
          intro sender entry
          simpa using alone own.nodeId sender rfl entry
        · rw [if_neg same, filter_ne_eq_self_iff]
          intro entry
          have known := registered nodeId entry
          rw [session] at known
          exact same (Option.some.inj known).symm

private theorem registersAs_of_quiet (quiet : event.isReceive = false) :
    event.registersAs nodeId = none := by
  cases event with
  | receive tunnel frame => cases quiet
  | _ => rfl

private theorem ownership_quiet (holds : Ownership history before)
    (quiet : event.isReceive = false)
    (taken : (fleetManager app).step before event = some after) :
    Ownership (history ++ [(before, event)]) after := by
  have nodes := nodes_quiet taken quiet
  obtain ⟨joined, standings, blank⟩ := standings_quiet taken quiet
  refine ownership_kept (fun nodeId => registersAs_of_quiet quiet) ?_ ?_ holds
  · intro nodeId
    rw [Registry.nodeSender, nodes]
    rfl
  · intro tunnel nodeId
    rw [standings]
    exact standing_append_blank blank

private theorem ownership_message {task : Tunnel} {msg : Message}
    (found : before.tunnels[tunnel]? = some task)
    (reading : task.phase = .reading) (other : msg.isRegister = false)
    (holds : Ownership history before) :
    Ownership (history ++ [(before, .receive tunnel (.text msg))])
      (stepMessage app before tunnel task msg) := by
  have unregistered (nodeId : NodeId) :
      (Event.receive tunnel (.text msg)).registersAs nodeId = none := by
    cases msg with
    | register register => cases other
    | _ => rfl
  refine ownership_kept unregistered ?_ ?_ holds
  · intro nodeId
    rw [registry_stepMessage]
    exact nodeSender_handleMessage other nodeId
  · intro position nodeId
    rw [standings_stepMessage reading, sessionNode_handleMessage other,
      ← sessionNode_eq found]
    have stood := standing_of_reading found reading
    by_cases here : tunnel = position
    · subst here
      rw [List.getElem?_set_self (List.getElem?_eq_some_iff.mp stood).1, stood]
    · rw [List.getElem?_set_ne here]

private theorem ownership_step_iff (holds : Ownership history before)
    (taken : (fleetManager app).step before event = some after) :
    Ownership (history ++ [(before, event)]) after ↔
      KeepsOwnership before event := by
  cases event with
  | receive tunnel frame =>
      obtain ⟨task, found, reading, -, outcome⟩ := stepReceive_cases taken
      rcases outcome with ⟨msg, rfl, rfl⟩ | ⟨ends, rfl⟩ | ⟨skipped, rfl⟩
      · cases register : msg.isRegister with
        | true =>
            cases msg with
            | register payload =>
                have inside := (List.getElem?_eq_some_iff.mp
                  (standing_of_reading found reading)).1
                exact ownership_register_iff reading inside holds
            | _ => cases register
        | false =>
            have kept : Ownership
                (history ++ [(before, .receive tunnel (.text msg))])
                (stepMessage app before tunnel task msg) :=
              ownership_message found reading register holds
            refine iff_of_true kept ?_
            cases msg with
            | register payload => cases register
            | _ => exact fun ends => by cases ends
      · have decided := ownership_close_iff found reading ends holds
        cases frame with
        | text msg => cases ends
        | invalid => cases ends
        | control => cases ends
        | close => exact decided.trans (by simp [KeepsOwnership, ends])
        | readError => exact decided.trans (by simp [KeepsOwnership, ends])
        | ended => exact decided.trans (by simp [KeepsOwnership, ends])
      · rcases skipped with rfl | rfl
        all_goals
          refine iff_of_true (ownership_kept (fun _ => rfl) (fun _ => rfl)
            (fun _ _ => Iff.rfl) holds) ?_
          exact fun ends => by cases ends
  | _ =>
      exact iff_of_true (ownership_quiet holds rfl taken) trivial

/-- The registry names the owner of every entry all along a run exactly when
every step of the run meets the guard. -/
theorem ownership_along_iff (run : (fleetManager app).Run history final) :
    (fleetManager app).Along Ownership history ↔
      Guarded (fun _ => KeepsOwnership) history := by
  refine Machine.Run.along_iff_guarded ?_ ?_ run
  · intro nodeId
    rfl
  · intro history before event after _ holds taken
    exact ownership_step_iff holds taken

theorem ownership_along_iff_reconnect :
    ∃ history final, (fleetManager bareApp).Run history final ∧
      history.length = 5 ∧ final.registry.nodeSender "node" = some 1 ∧
      ((fleetManager bareApp).Along Ownership history ↔
        Guarded (fun _ => KeepsOwnership) history) := by
  obtain ⟨history, final, run, observed⟩ :=
    (fleetManager bareApp).exists_run_of_trace
      [.connect, .receive 0 (.text (.register (plainRegister "node"))),
        .receive 0 .close, .connect,
        .receive 1 (.text (.register (plainRegister "node")))]
      (fun outcome => outcome.1.length = 5 ∧
        outcome.2.registry.nodeSender "node" = some 1)
      (by decide +kernel)
  have observed := of_decide_eq_true observed
  exact ⟨history, final, run, observed.1, observed.2, ownership_along_iff run⟩

/-- Tunnel 1 takes the node over from tunnel 0; the late close of tunnel 0
removes the entry although its owner is connected. -/
theorem superseded_close_breaks_ownership :
    ∃ history final, (fleetManager bareApp).Run history final ∧
      owner history final "node" = some 1 ∧
      final.registry.nodeSender "node" = none ∧
      ¬ Ownership history final := by
  obtain ⟨history, final, run, observed⟩ :=
    (fleetManager bareApp).exists_run_of_trace
      [.connect, .connect,
        .receive 0 (.text (.register (plainRegister "node"))),
        .receive 1 (.text (.register (plainRegister "node"))),
        .receive 0 .close]
      (fun outcome => owner outcome.1 outcome.2 "node" = some 1 ∧
        outcome.2.registry.nodeSender "node" = none)
      (by decide +kernel)
  obtain ⟨owned, gone⟩ := of_decide_eq_true observed
  refine ⟨history, final, run, owned, gone, fun holds => ?_⟩
  have same := holds "node"
  rw [owned, gone] at same
  cases same

end JwSwarm.FleetManager
