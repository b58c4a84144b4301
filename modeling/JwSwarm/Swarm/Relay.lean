import JwSwarm.Swarm.Network

namespace JwSwarm.Swarm

open Data Proto Transition Machine FleetManager LinuxNode

/-! The way of a prompt down to the node's backend, and the runs of the two
sides that a run of the network is made of. -/

variable {app : AppState} {history : History Network NetworkEvent}
variable {past : History BackendState BackendEvent}
variable {before after final state : Network} {event : NetworkEvent}
variable {id : RequestId} {msg : Message} {wire : Wire} {index : ℕ}
variable {rest : List Message}

namespace Network

/-- The prompts of the request that are on their way to the backend. -/
def asked (state : Network) (id : RequestId) : ℕ :=
  state.fleet.prompts id +
    (state.wires.map fun wire => promptCount id wire.down).sum

end Network

/-- Behind a state of the network stand a run of each side; `past` is the
backend's. A prompt that its handler has sent is on its way or with the
backend. -/
structure Traced (app : AppState) (past : History BackendState BackendEvent)
    (state : Network) : Prop where
  fleet : ∃ past, (fleetManager app).Run past state.fleet
  backend : LinuxNode.backend.Run past state.backend
  handedOnce : ∀ id, state.asked id + (handed past).count id ≤
    (state.fleet.hasSent id).toNat
  linked : state.outbound.link ≠ .down → state.wires ≠ []

theorem Traced.distinct (traced : Traced app past state) :
    (handed past).Nodup := by
  rw [List.nodup_iff_count_le_one]
  intro id
  have once := traced.handedOnce id
  have bit := Bool.toNat_le (state.fleet.hasSent id)
  omega

theorem prompts_le_of_step {earlier later : FleetState}
    {event : FleetManager.Event}
    (taken : FleetManager.step app earlier event = some later) :
    later.prompts id + (earlier.hasSent id).toNat ≤
      earlier.prompts id + (later.hasSent id).toNat := by
  have waiting := @prompts_step _ _ _ _ id taken
  cases sends : earlier.dispatchesTo id event with
  | true =>
      obtain ⟨unsent, sent⟩ := hasSent_of_dispatches taken sends
      simp only [sends, unsent, sent, Bool.toNat_true, Bool.toNat_false]
        at waiting ⊢
      omega
  | false =>
      rw [sends, Bool.toNat_false] at waiting
      cases sent : earlier.hasSent id with
      | true =>
          rw [hasSent_step taken sent]
          omega
      | false =>
          rw [Bool.toNat_false]
          omega

theorem asked_setWire {changed : Wire}
    (found : state.wires[index]? = some wire) :
    (state.setWire index changed).asked id + promptCount id wire.down =
      state.asked id + promptCount id changed.down := by
  have moved : ((state.wires.set index changed).map fun wire =>
      promptCount id wire.down).sum + promptCount id wire.down =
        (state.wires.map fun wire => promptCount id wire.down).sum +
          promptCount id changed.down := sum_map_set_add _ found
  simp only [Network.asked, Network.setWire] at moved ⊢
  omega

theorem promptCount_cons :
    promptCount id (msg :: rest) =
      (isPrompt id msg).toNat + promptCount id rest := by
  rw [promptCount, List.countP_cons, promptCount]
  cases isPrompt id msg with
  | true => simp [Nat.add_comm]
  | false => simp

theorem reached_of_step {earlier later : FleetState}
    {event : FleetManager.Event}
    (reached : ∃ past, (fleetManager app).Run past earlier)
    (taken : FleetManager.step app earlier event = some later) :
    ∃ past, (fleetManager app).Run past later := by
  obtain ⟨past, run⟩ := reached
  exact ⟨_, run.next taken⟩

private theorem count_dispatched {prompt : PromptDispatch}
    {ready serialises : Bool} : (BackendEvent.dispatched
      (.dispatch prompt ready serialises)).toList.count id =
        (isPrompt id (.promptDispatch prompt)).toNat := by
  rw [BackendEvent.dispatched, Option.toList_some, isPrompt]
  by_cases same : prompt.requestId = id
  · simp [same]
  · rw [beq_eq_false_iff_ne.mpr same]
    simp [same]

theorem backendHistory_concat :
    backendHistory (history ++ [(before, event)]) =
      backendHistory history ++ ((before.backendStep event).map fun event =>
        (before.backend, event)).toList := by
  rw [backendHistory, List.filterMap_append, ← backendHistory]
  apply congrArg (backendHistory history ++ ·)
  cases moved : before.backendStep event with
  | none => simp [moved]
  | some event => simp [moved]

theorem Traced.quiet (traced : Traced app (backendHistory history) before)
    (silent : before.backendStep event = none)
    (same : after.backend = before.backend)
    (fleet : ∃ past, (fleetManager app).Run past after.fleet)
    (passed : ∀ id, after.asked id + (before.fleet.hasSent id).toNat ≤
      before.asked id + (after.fleet.hasSent id).toNat)
    (linked : after.outbound.link ≠ .down → after.wires ≠ []) :
    Traced app (backendHistory (history ++ [(before, event)])) after := by
  rw [backendHistory_concat, silent, Option.map_none, Option.toList_none,
    List.append_nil]
  refine ⟨fleet, same ▸ traced.backend, fun id => ?_, linked⟩
  have once := traced.handedOnce id
  have moved := passed id
  omega

theorem Traced.advance {moved : BackendEvent}
    (traced : Traced app (backendHistory history) before)
    (own : before.backendStep event = some moved)
    (stepped : stepBackend before.backend moved = some after.backend)
    (fleet : after.fleet = before.fleet)
    (passed : ∀ id, after.asked id + moved.dispatched.toList.count id ≤
      before.asked id)
    (linked : after.outbound.link ≠ .down → after.wires ≠ []) :
    Traced app (backendHistory (history ++ [(before, event)])) after := by
  rw [backendHistory_concat, own, Option.map_some, Option.toList_some]
  refine ⟨fleet ▸ traced.fleet, traced.backend.next stepped, fun id => ?_,
    linked⟩
  have once := traced.handedOnce id
  have moved := passed id
  rw [handed_concat, List.count_append, fleet]
  omega

private theorem traced_step
    (traced : Traced app (backendHistory history) before)
    (taken : stepNetwork app before event = some after) :
    Traced app (backendHistory (history ++ [(before, event)])) after := by
  cases moves taken with
  | fleet admitted moved =>
      refine traced.quiet rfl rfl (reached_of_step traced.fleet moved)
        (fun id => ?_) traced.linked
      have waiting := @prompts_le_of_step _ id _ _ _ moved
      simp only [Network.asked]
      omega
  | backend undispatched moved =>
      refine traced.advance rfl moved rfl (fun id => ?_) traced.linked
      rw [undispatched]
      exact le_rfl
  | control unnamed =>
      exact traced.quiet rfl rfl traced.fleet (fun _ => le_rfl) traced.linked
  | connect moved same =>
      refine traced.quiet rfl rfl (reached_of_step traced.fleet moved)
        (fun id => ?_) fun _ => List.cons_ne_nil _ _
      have waiting := @prompts_le_of_step _ id _ _ _ moved
      simp only [Network.asked, List.map_cons, List.sum_cons, promptCount,
        List.countP_nil]
      omega
  | carried linked queue =>
      refine traced.quiet rfl rfl traced.fleet (fun id => ?_) fun _ => ?_
      · simp only [Network.asked, Network.carry]
        cases before.wires with
        | nil => exact le_rfl
        | cons wire older => exact le_rfl
      · simpa [Network.carry] using traced.linked linked
  | lost linked queue =>
      exact traced.quiet rfl rfl traced.fleet (fun _ => le_rfl)
        fun _ => traced.linked linked
  | drained linked same =>
      exact traced.quiet rfl rfl traced.fleet (fun _ => le_rfl)
        fun _ => traced.linked linked
  | close linked same =>
      exact traced.quiet rfl rfl traced.fleet (fun _ => le_rfl)
        fun _ => traced.linked linked
  | @push index wire task msg fleet found known next moved =>
      refine traced.quiet rfl rfl (reached_of_step traced.fleet moved)
        (fun id => ?_) fun up => ?_
      · have written := @prompts_write _ _ id _ _ _ moved known next
        have sent := @hasSent_le _ _ _ _ id moved
        have wired := @asked_setWire { before with fleet } id _ _
          { wire with down := wire.down ++ [msg] } found
        rw [promptCount_append] at wired
        simp only [Network.asked, Network.setWire] at wired ⊢
        omega
      · simpa [Network.setWire] using traced.linked up
  | @arrive index wire msg rest fleet found next moved =>
      refine traced.quiet rfl rfl (reached_of_step traced.fleet moved)
        (fun id => ?_) fun up => ?_
      · have sent := @prompts_le_of_step _ id _ _ _ moved
        have wired := @asked_setWire { before with fleet } id _ _
          { wire with up := rest } found
        simp only [Network.asked, Network.setWire] at wired ⊢
        omega
      · simpa [Network.setWire] using traced.linked up
  | @dispatch index wire prompt rest ready serialises found next =>
      have own : before.backendStep (.handle index ready serialises) =
          some (.dispatch prompt ready serialises) := by
        simp only [Network.backendStep, found, Option.bind_some, next,
          List.head?_cons]
      refine traced.advance own rfl rfl (fun id => ?_) fun up => ?_
      · have wired := @asked_setWire before id _ _
          { wire with down := rest } found
        have here := @count_dispatched id prompt ready serialises
        rw [next, promptCount_cons] at wired
        simp only [Network.asked, Network.setWire, Network.absorb] at wired ⊢
        omega
      · simpa [Network.setWire, Network.absorb] using traced.linked up
  | @pass index wire msg rest ready serialises found next other =>
      have silent : before.backendStep (.handle index ready serialises) =
          none := by
        simp only [Network.backendStep, found, Option.bind_some, next,
          List.head?_cons]
        cases msg with
        | promptDispatch prompt => exact absurd rfl (other prompt)
        | _ => rfl
      refine traced.quiet silent rfl traced.fleet (fun id => ?_) fun up => ?_
      · have wired := @asked_setWire before id _ _
          { wire with down := rest } found
        rw [next, promptCount_cons] at wired
        simp only [Network.asked, Network.setWire] at wired ⊢
        omega
      · simpa [Network.setWire] using traced.linked up

theorem traced_run (run : (network app).Run history final) :
    Traced app (backendHistory history) final := by
  induction run with
  | start =>
      exact ⟨⟨[], .start⟩, .start, fun id => Nat.le_refl 0,
        fun up => absurd rfl up⟩
  | next run taken ih => exact traced_step ih taken

end JwSwarm.Swarm
