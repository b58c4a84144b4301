import JwSwarm.Swarm.Relay

namespace JwSwarm.Swarm

open Data Proto Transition Machine FleetManager LinuxNode

/-! The way of the frames that answer a request: from the node's backend through
its queue and its connections to the request's handler. -/

/-- What the connections carry up about the request, the oldest first. -/
def inFlight (id : RequestId) : List Wire → List RequestEvent
  | [] => []
  | wire :: older => inFlight id older ++ answers id wire.up

namespace Network

def generated (state : Network) (id : RequestId) : List RequestEvent :=
  answers id state.backend.frames

def queued (state : Network) (id : RequestId) : List RequestEvent :=
  answers id state.outbound.queue

/-- What has been made for the request and can still reach its handler, and what
has reached it, the oldest first. -/
def accounted (state : Network) (id : RequestId) : List RequestEvent :=
  state.fleet.eventsOf id ++ inFlight id state.wires ++ state.queued id

end Network

/-- No other tunnel of the Fleet Manager names the request. -/
def unspoofed (id : RequestId) (_ : Network) : NetworkEvent → Bool
  | .fleet (.receive _ (.text msg)) => (answerTo id msg).isNone
  | _ => true

/-- No frame of the request is lost by a failing write, and none arrives while
an older connection still carries one. -/
def passesOn (id : RequestId) (state : Network) : NetworkEvent → Bool
  | .fleet event => unspoofed id state (.fleet event)
  | .write false =>
      state.outbound.queue.head?.all fun msg => (answerTo id msg).isNone
  | .arrive index =>
      (inFlight id (state.wires.drop (index + 1))).isEmpty ||
        (state.wires[index]?).all fun wire =>
          wire.up.head?.all fun msg => (answerTo id msg).isNone
  | _ => true

variable {app : AppState} {history : History Network NetworkEvent}
variable {past : History BackendState BackendEvent}
variable {before after final state : Network} {event : NetworkEvent}
variable {id : RequestId} {msg : Message} {wire : Wire} {index : ℕ}
variable {wires : List Wire} {rest frames : List Message}

private theorem inFlight_modifyHead (present : wires ≠ []) :
    inFlight id (wires.modifyHead fun wire =>
      { wire with up := wire.up ++ [msg] }) =
      inFlight id wires ++ answers id [msg] := by
  cases wires with
  | nil => exact absurd rfl present
  | cons wire older =>
      rw [List.modifyHead_cons, inFlight, answers_append, ← List.append_assoc,
        inFlight]

theorem inFlight_set_down {down : List Message}
    (found : wires[index]? = some wire) :
    inFlight id (wires.set index { wire with down }) = inFlight id wires := by
  induction wires generalizing index with
  | nil => rfl
  | cons head older ih =>
      cases index with
      | zero =>
          obtain rfl : head = wire := by simpa using found
          rfl
      | succ index =>
          rw [List.set_cons_succ, inFlight, ih (by simpa using found), inFlight]

/-- A frame leaves a connection; what came before it in the older ones stays
before it. -/
theorem inFlight_set_up (found : wires[index]? = some wire)
    (next : wire.up = msg :: rest) :
    ∃ older newer, inFlight id wires =
        older ++ (answerTo id msg).toList ++ newer ∧
      inFlight id (wires.set index { wire with up := rest }) = older ++ newer ∧
      older = inFlight id (wires.drop (index + 1)) := by
  induction wires generalizing index with
  | nil => cases found
  | cons head others ih =>
      cases index with
      | zero =>
          obtain rfl : head = wire := by simpa using found
          refine ⟨inFlight id others, answers id rest, ?_, rfl, rfl⟩
          rw [inFlight, next, answers_cons, List.append_assoc]
      | succ index =>
          obtain ⟨older, newer, whole, left, same⟩ := ih (by simpa using found)
          refine ⟨older, newer ++ answers id head.up, ?_, ?_, same⟩
          · rw [inFlight, whole, List.append_assoc _ newer]
          · rw [List.set_cons_succ, inFlight, left, List.append_assoc]

inductive Flow (id : RequestId) (before : Network) (event : NetworkEvent)
    (after : Network) : Prop
  | kept (new : List RequestEvent)
      (events : after.fleet.eventsOf id = before.fleet.eventsOf id)
      (listens : after.fleet.listens id = true →
        before.fleet.listens id = true ∨ before.fleet.hasSent id = false)
      (flying : inFlight id after.wires = inFlight id before.wires)
      (queue : after.queued id = before.queued id ++ new)
      (made : after.generated id = before.generated id ++ new)
  | carried (events : after.fleet.eventsOf id = before.fleet.eventsOf id)
      (listens : after.fleet.listens id = before.fleet.listens id)
      (moved : inFlight id after.wires ++ after.queued id =
        inFlight id before.wires ++ before.queued id)
      (made : after.generated id = before.generated id)
  | lost (msg : Message) (here : event = .write false)
      (head : before.outbound.queue.head? = some msg)
      (events : after.fleet.eventsOf id = before.fleet.eventsOf id)
      (listens : after.fleet.listens id = before.fleet.listens id)
      (flying : inFlight id after.wires = inFlight id before.wires)
      (queue : before.queued id = (answerTo id msg).toList ++ after.queued id)
      (made : after.generated id = before.generated id)
  | arrived (index : ℕ) (wire : Wire) (msg : Message)
      (older newer : List RequestEvent) (here : event = .arrive index)
      (found : before.wires[index]? = some wire)
      (head : wire.up.head? = some msg)
      (events : after.fleet.eventsOf id = before.fleet.eventsOf id ++
        if before.fleet.listens id then (answerTo id msg).toList else [])
      (listens : after.fleet.listens id = before.fleet.listens id)
      (whole : inFlight id before.wires =
        older ++ (answerTo id msg).toList ++ newer)
      (left : inFlight id after.wires = older ++ newer)
      (ahead : older = inFlight id (before.wires.drop (index + 1)))
      (queue : after.queued id = before.queued id)
      (made : after.generated id = before.generated id)
  | spoofed (tunnel : TunnelId) (msg : Message)
      (here : event = .fleet (.receive tunnel (.text msg)))
      (named : (answerTo id msg).isSome = true)

theorem queued_absorb {backend : BackendState}
    (grown : before.backend.frames <+: backend.frames) :
    ∃ new, (before.absorb backend).queued id = before.queued id ++ new ∧
      (before.absorb backend).generated id = before.generated id ++ new := by
  obtain ⟨fresh, same⟩ := grown
  refine ⟨answers id fresh, ?_, ?_⟩
  · simp only [Network.queued, Network.absorb, ← same, List.drop_left]
    exact answers_append _ _
  · simp only [Network.generated, Network.absorb, ← same]
    exact answers_append _ _

theorem frames_grow {earlier later : BackendState} {event : BackendEvent}
    (taken : stepBackend earlier event = some later) :
    earlier.frames <+: later.frames := by
  cases step_effect taken with
  | quiet _ _ _ framesSame => rw [framesSame]
  | queued _ _ _ _ framesSame => rw [framesSame]
  | refused _ _ _ _ _ framesNow => exact framesNow ▸ List.prefix_append _ _
  | dropped _ _ _ same => rw [same]
  | streamed _ _ _ _ _ _ framesNow => exact framesNow ▸ List.prefix_append _ _
  | answered _ _ _ _ _ _ _ framesNow => exact framesNow ▸ List.prefix_append _ _
  | ended _ _ _ framesSame => rw [framesSame]

theorem flow_step (traced : Traced app past before)
    (taken : stepNetwork app before event = some after) (id : RequestId) :
    Flow id before event after := by
  obtain ⟨_, fleetRun⟩ := traced.fleet
  have listened {moved : FleetManager.Event} {fleet : FleetState}
      (stepped : FleetManager.step app before.fleet moved = some fleet) :
      fleet.eventsOf id = before.fleet.eventsOf id ++
        if before.fleet.listens id then moved.heard id else [] :=
    eventsOf_step (attended_run fleetRun) (fun _ _ => pending_tx fleetRun)
      stepped
  have unheard {moved : FleetManager.Event} {fleet : FleetState}
      (stepped : FleetManager.step app before.fleet moved = some fleet)
      (silent : moved.heard id = []) :
      fleet.eventsOf id = before.fleet.eventsOf id := by
    rw [listened stepped, silent, ite_self, List.append_nil]
  cases moves taken with
  | @fleet moved fleet admitted stepped =>
      cases heard : moved.heard id with
      | nil =>
          exact .kept [] (unheard stepped heard) (listens_step stepped) rfl
            (List.append_nil _).symm (List.append_nil _).symm
      | cons first others =>
          cases moved with
          | receive tunnel frame =>
              cases frame with
              | text msg =>
                  refine .spoofed tunnel msg rfl ?_
                  rw [Event.heard, answers_singleton] at heard
                  cases said : answerTo id msg with
                  | none => simp [said] at heard
                  | some event => rfl
              | _ => cases heard
          | _ => cases heard
  | @backend event backend undispatched stepped =>
      obtain ⟨new, queue, made⟩ :=
        @queued_absorb before id _ (frames_grow stepped)
      exact .kept new rfl Or.inl rfl queue made
  | @control msg unnamed =>
      refine .kept [] rfl Or.inl rfl ?_ (List.append_nil _).symm
      have silent : answers id [msg] = [] := by
        rw [answers_singleton, answerTo]
        cases msg with
        | tokenChunk chunk => cases unnamed
        | done done => cases unnamed
        | error error => cases unnamed
        | _ => rfl
      simp only [Network.queued]
      rw [answers_append, silent]
  | connect stepped same =>
      refine .kept [] (unheard stepped rfl) (listens_step stepped) ?_ ?_
        (List.append_nil _).symm
      · exact List.append_nil _
      · rw [List.append_nil, Network.queued, same, Network.queued]
  | @carried msg outbound linked queue =>
      refine .carried rfl rfl ?_ rfl
      simp only [Network.carry, Network.queued]
      rw [inFlight_modifyHead (traced.linked linked), queue,
        List.append_assoc, ← answers_append]
      rfl
  | @lost msg outbound linked queue =>
      refine .lost msg rfl (by rw [queue]; rfl) rfl rfl rfl ?_ rfl
      rw [Network.queued, queue, answers_cons]
      rfl
  | drained linked same =>
      refine .kept [] rfl Or.inl rfl ?_ (List.append_nil _).symm
      rw [List.append_nil, Network.queued, same, Network.queued]
  | close linked same =>
      refine .kept [] rfl Or.inl rfl ?_ (List.append_nil _).symm
      rw [List.append_nil, Network.queued, same, Network.queued]
  | push found known next stepped =>
      refine .kept [] (unheard stepped rfl) (listens_step stepped) ?_
        (List.append_nil _).symm (List.append_nil _).symm
      exact inFlight_set_down found
  | @arrive index wire msg rest fleet found next stepped =>
      obtain ⟨older, newer, whole, left, ahead⟩ :=
        @inFlight_set_up id msg _ _ _ rest found next
      refine .arrived index wire msg older newer rfl found (by rw [next]; rfl)
        ?_ (listens_receive stepped) whole left ahead rfl rfl
      have reached := listened stepped
      rw [Event.heard, answers_singleton] at reached
      exact reached
  | @dispatch index wire prompt rest ready serialises found next =>
      have stepped : stepBackend before.backend
          (.dispatch prompt ready serialises) =
            some (stepDispatch before.backend prompt ready serialises) := rfl
      obtain ⟨new, queue, made⟩ := @queued_absorb
        (before.setWire index { wire with down := rest }) id _
        (frames_grow stepped)
      refine .kept new rfl Or.inl ?_ queue made
      exact inFlight_set_down found
  | pass found next other =>
      refine .kept [] rfl Or.inl ?_ (List.append_nil _).symm
        (List.append_nil _).symm
      exact inFlight_set_down found

/-! No frame is made up or doubled on the way, whatever happens. -/

theorem count_accounted (said : RequestEvent) :
    (state.accounted id).count said =
      (state.fleet.eventsOf id).count said +
        (inFlight id state.wires).count said +
        (state.queued id).count said := by
  rw [Network.accounted, List.count_append, List.count_append]

private theorem count_accounted_step (traced : Traced app past before)
    (own : unspoofed id before event = true)
    (taken : stepNetwork app before event = some after) (said : RequestEvent) :
    (after.accounted id).count said + (before.generated id).count said ≤
      (before.accounted id).count said + (after.generated id).count said := by
  rw [count_accounted, count_accounted]
  cases flow_step traced taken id with
  | kept new events listens flying queue made =>
      rw [events, flying, queue, made, List.count_append, List.count_append]
      omega
  | carried events listens moved made =>
      have same := congrArg (List.count said) moved
      rw [List.count_append, List.count_append] at same
      rw [events, made]
      omega
  | lost msg here head events listens flying queue made =>
      rw [events, flying, queue, made, List.count_append]
      omega
  | arrived index wire msg older newer here found head events listens whole left
      ahead queue made =>
      rw [events, whole, left, queue, made]
      simp only [List.count_append]
      split
      · omega
      · rw [List.count_nil]
        omega
  | spoofed tunnel msg here named =>
      rw [here, unspoofed, Option.isNone_iff_eq_none] at own
      rw [own] at named
      cases named

theorem count_accounted_le (run : (network app).Run history final)
    (own : Guarded (fun _ state event => unspoofed id state event = true)
      history) (said : RequestEvent) :
    (final.accounted id).count said ≤ (final.generated id).count said := by
  induction run with
  | start => exact Nat.le_refl 0
  | next run taken ih =>
      obtain ⟨own, last⟩ := guarded_concat.mp own
      have earlier := ih own
      have moved := count_accounted_step (traced_run run) last taken said
      omega

/-- What a handler has been sent, what is on its way to it and what waits in
the node's queue is made by the node's backend, each once. -/
theorem accounted_subperm (run : (network app).Run history final)
    (own : Guarded (fun _ state event => unspoofed id state event = true)
      history) :
    (final.accounted id).Subperm (final.generated id) :=
  List.subperm_ext_iff.mpr fun said _ => count_accounted_le run own said

/-! Where no frame is lost or overtaken, they come in order and in full. -/

structure Relayed (id : RequestId) (state : Network) : Prop where
  flowing : state.fleet.listens id = true →
    state.accounted id = state.generated id
  begun : state.fleet.eventsOf id <+: state.generated id

theorem unspoofed_of_passesOn (passes : passesOn id before event = true) :
    unspoofed id before event = true := by
  cases event with
  | fleet event => exact passes
  | _ => rfl

private theorem generated_of_unsent (traced : Traced app past state)
    (unsent : state.fleet.hasSent id = false) : state.generated id = [] := by
  have absent : id ∉ handed past := by
    have once := traced.handedOnce id
    rw [unsent, Bool.toNat_false] at once
    rw [← List.count_eq_zero]
    omega
  have foreign :=
    (tracked_run traced.backend traced.distinct).1.foreign id absent
  rw [Network.generated, answers, List.filterMap_eq_nil_iff]
  intro frame member
  rw [framesFor, List.filter_eq_nil_iff] at foreign
  have other := foreign frame member
  cases frame with
  | tokenChunk chunk =>
      simp only [frameId, beq_iff_eq, Option.some.injEq] at other
      simp [answerTo, answer, other]
  | done done =>
      simp only [frameId, beq_iff_eq, Option.some.injEq] at other
      simp [answerTo, answer, other]
  | error error =>
      simp only [frameId, beq_iff_eq, Option.some.injEq] at other
      simp [answerTo, answer, other]
  | _ => rfl

theorem Relayed.complete (traced : Traced app past before)
    (relayed : Relayed id before)
    (known : ∀ said, (before.accounted id).count said ≤
      (before.generated id).count said)
    (waits : before.fleet.listens id = true ∨ before.fleet.hasSent id = false) :
    before.accounted id = before.generated id := by
  rcases waits with listens | unsent
  · exact relayed.flowing listens
  · have silent := generated_of_unsent traced unsent
    rw [silent, List.eq_nil_iff_forall_not_mem]
    intro said member
    have once := known said
    rw [silent, List.count_nil, Nat.le_zero, List.count_eq_zero] at once
    exact once member

theorem Relayed.step (traced : Traced app past before) (relayed : Relayed id before)
    (known : ∀ said, (before.accounted id).count said ≤
      (before.generated id).count said)
    (passes : passesOn id before event = true)
    (taken : stepNetwork app before event = some after) : Relayed id after := by
  cases flow_step traced taken id with
  | kept new events listens flying queue made =>
      refine ⟨fun waits => ?_, ?_⟩
      · have complete := relayed.complete traced known (listens waits)
        rw [made, ← complete, Network.accounted, Network.accounted, events,
          flying, queue, List.append_assoc _ _ new]
      · rw [events, made]
        exact relayed.begun.trans (List.prefix_append _ _)
  | carried events listens moved made =>
      refine ⟨fun waits => ?_, ?_⟩
      · rw [made, ← relayed.flowing (listens ▸ waits), Network.accounted,
          Network.accounted, events, List.append_assoc, moved,
          List.append_assoc]
      · rw [events, made]
        exact relayed.begun
  | lost msg here head events listens flying queue made =>
      have other : answerTo id msg = none := by
        rw [here, passesOn, head] at passes
        exact Option.isNone_iff_eq_none.mp passes
      rw [other, Option.toList_none, List.nil_append] at queue
      refine ⟨fun waits => ?_, ?_⟩
      · rw [made, ← relayed.flowing (listens ▸ waits), Network.accounted,
          Network.accounted, events, flying, queue]
      · rw [events, made]
        exact relayed.begun
  | arrived index wire msg older newer here found head events listens whole left
      ahead queue made =>
      have first : older = [] ∨ answerTo id msg = none := by
        rw [here, passesOn, found, ← ahead, Option.all_some, head,
          Option.all_some, Bool.or_eq_true, List.isEmpty_iff,
          Option.isNone_iff_eq_none] at passes
        exact passes
      have moved : older ++ (answerTo id msg).toList ++ newer =
          (answerTo id msg).toList ++ (older ++ newer) := by
        rcases first with rfl | other
        · rfl
        · rw [other, Option.toList_none, List.append_nil, List.nil_append]
      rw [moved] at whole
      cases waits : before.fleet.listens id with
      | true =>
          rw [waits, if_pos rfl] at events
          have flowing := relayed.flowing waits
          rw [Network.accounted, whole] at flowing
          refine ⟨fun _ => ?_, ?_⟩
          · rw [made, ← flowing, Network.accounted, events, left, queue]
            simp only [List.append_assoc]
          · rw [made, ← flowing, events]
            simp only [List.append_assoc]
            exact ⟨older ++ (newer ++ before.queued id),
              by simp only [List.append_assoc]⟩
      | false =>
          rw [waits, if_neg Bool.false_ne_true, List.append_nil] at events
          refine ⟨fun still => ?_, ?_⟩
          · rw [listens, waits] at still
            cases still
          · rw [events, made]
            exact relayed.begun
  | spoofed tunnel msg here named =>
      have own := unspoofed_of_passesOn passes
      rw [here, unspoofed, Option.isNone_iff_eq_none] at own
      rw [own] at named
      cases named

private theorem relayed_run (run : (network app).Run history final)
    (passed : Guarded (fun _ state event => passesOn id state event = true)
      history) : Relayed id final := by
  induction run with
  | start => exact ⟨fun _ => rfl, List.nil_prefix⟩
  | next run taken ih =>
      obtain ⟨passed, last⟩ := guarded_concat.mp passed
      have own : Guarded (fun _ state event => unspoofed id state event = true)
          _ := fun earlier state event inside =>
        unspoofed_of_passesOn (passed earlier state event inside)
      exact (ih passed).step (traced_run run) (count_accounted_le run own) last
        taken

/-- Where no frame of a request is lost or overtaken on the way, its handler has
received the beginning of what the node's backend has made for it, and answers
with what the loop makes of all of that. -/
theorem answer_relayed (run : (network app).Run history final)
    (passed : Guarded (fun _ state event => passesOn id state event = true)
      history) {call : ChatCall}
    (found : final.fleet.calls.lookup id = some call) :
    call.received <+: final.generated id ∧
      ∀ response, call.phase = .returned response → call.received ≠ [] →
        ∃ exit, bufferedLoop "" (final.generated id) = some exit ∧
          response = respond id call exit := by
  have begun := (relayed_run run passed).begun
  rw [eventsOf_of_found found, ChatCall.events] at begun
  have received := (List.prefix_append call.received call.inbox).trans begun
  refine ⟨received, fun response returned heard => ?_⟩
  obtain ⟨past, fleetRun⟩ := (traced_run run).fleet
  rcases responded_run fleetRun call found response returned with
    ⟨exit, exits, same⟩ | ⟨unheard, -⟩
  · exact ⟨exit, bufferedLoop_of_prefix received exits, same⟩
  · exact absurd unheard heard

end JwSwarm.Swarm
