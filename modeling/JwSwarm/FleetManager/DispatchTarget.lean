import JwSwarm.FleetManager.Requests

namespace JwSwarm.FleetManager

open Data Proto Transition Machine FleetState

/-! Which tunnel a prompt goes to. The node is picked on a snapshot, its sender
is looked up again later, under the registry's lock but by node id alone. -/

variable {app : AppState} {history : History FleetState Event}
variable {before after final : FleetState} {event : Event} {id : RequestId}
variable {moment : FleetState}

def Event.requests (id : RequestId) : Event → Bool
  | .request other _ _ => other == id
  | _ => false

/-- A tunnel's entry is awake and lists the model as ready. -/
def FleetState.Serves (state : FleetState) (tunnel : TunnelId)
    (model : ModelId) : Prop :=
  ∃ nodeId node, state.registry.nodes.lookup nodeId = some node ∧
    node.tx = tunnel ∧ node.canServe model = true

/-- The states passed since the handler of the request started. -/
def handlerStates (history : History FleetState Event) (id : RequestId) :
    List FleetState :=
  (history.dropWhile fun taken => !taken.2.requests id).map Prod.fst

/-- A prompt is put on the sender of a tunnel whose entry served the model at
some moment from the start of the handler to the send. -/
def TargetServed (earlier : History FleetState Event) (state : FleetState)
    (event : Event) : Prop :=
  ∀ id nodeId tunnel, state.dispatches id event = some (nodeId, tunnel) →
    ∀ call, state.calls.lookup id = some call →
      ∃ moment ∈ handlerStates earlier id ++ [state],
        moment.Serves tunnel call.model

/-- When the sender of the picked node is looked up, the node's entry has the
tunnel that it had when the handler started, or serves the model itself. -/
def keepsTarget (earlier : History FleetState Event) (state : FleetState) :
    Event → Bool
  | .lookupSender id =>
      (state.calls.lookup id).all fun call =>
        match call.phase with
        | .picked nodeId =>
            (state.registry.nodes.lookup nodeId).all fun node =>
              node.canServe call.model ||
                (handlerStates earlier id).head?.any fun start =>
                  start.registry.nodeSender nodeId == some node.tx
        | _ => true
  | _ => true

theorem mem_handlerStates_concat (inside : moment ∈ handlerStates history id) :
    moment ∈ handlerStates (history ++ [(before, event)]) id := by
  unfold handlerStates at inside ⊢
  rw [List.dropWhile_append]
  split
  · next empty =>
      rw [List.isEmpty_iff.mp empty] at inside
      cases inside
  · rw [List.map_append]
    exact List.mem_append_left _ inside

theorem head_handlerStates_concat
    (head : (handlerStates history id).head? = some moment) :
    (handlerStates (history ++ [(before, event)]) id).head? = some moment := by
  unfold handlerStates at head ⊢
  rw [List.dropWhile_append]
  split
  · next empty =>
      rw [List.isEmpty_iff.mp empty] at head
      cases head
  · rw [List.map_append, List.head?_append, head]
    rfl

private theorem mem_handlerStates_last
    (started : (handlerStates history id).head? = some moment) :
    before ∈ handlerStates (history ++ [(before, event)]) id := by
  unfold handlerStates at started ⊢
  rw [List.dropWhile_append]
  split
  · next empty =>
      rw [List.isEmpty_iff.mp empty] at started
      cases started
  · simp

private theorem keyed_step (keyed : before.registry.Keyed)
    (taken : step app before event = some after) : after.registry.Keyed := by
  cases receives : event.isReceive with
  | false =>
      have same := nodes_quiet taken receives
      intro nodeId node found
      exact keyed nodeId node (by rw [← same]; exact found)
  | true =>
      cases event with
      | receive tunnel frame =>
          obtain ⟨task, -, -, -, ⟨msg, -, rfl⟩ | ⟨-, rfl⟩ | ⟨-, rfl⟩⟩ :=
            stepReceive_cases taken
          · rw [registry_stepMessage]
            cases msg with
            | register register => exact keyed.upsertNode register tunnel
            | heartbeat heartbeat =>
                rw [handleMessage, registry_handleHeartbeat]
                exact keyed.modifyNode heartbeat.nodeId fun _ => rfl
            | modelStatus status =>
                exact keyed.modifyNode status.nodeId fun _ => rfl
            | scheduleState schedule =>
                exact keyed.modifyNode schedule.nodeId fun _ => rfl
            | _ => exact keyed
          · unfold stepClose
            cases task.session with
            | none => exact keyed
            | some session => exact keyed.removeNode session.nodeId
          · exact keyed
      | _ => cases receives

theorem keyed_run (run : (fleetManager app).Run history final) :
    final.registry.Keyed := by
  induction run with
  | start =>
      intro nodeId node found
      cases found
  | next run taken ih => exact keyed_step ih taken

/-- The picked node served the model when the handler started, and the sender
that is looked up belongs to a tunnel that did at some moment since. -/
def Chosen (history : History FleetState Event) (id : RequestId)
    (call : ChatCall) : Prop :=
  match call.phase with
  | .picked nodeId =>
      ∃ start node, (handlerStates history id).head? = some start ∧
        start.registry.nodes.lookup nodeId = some node ∧
        node.canServe call.model = true
  | .addressed _ sender | .registered _ sender =>
      ∃ moment ∈ handlerStates history id, moment.Serves sender call.model
  | _ => True

variable {call : ChatCall}

theorem Chosen.concat (chosen : Chosen history id call) :
    Chosen (history ++ [(before, event)]) id call := by
  unfold Chosen at chosen ⊢
  cases phase : call.phase with
  | picked nodeId =>
      rw [phase] at chosen
      obtain ⟨start, node, head, found, serves⟩ := chosen
      exact ⟨start, node, head_handlerStates_concat head, found, serves⟩
  | addressed nodeId sender =>
      rw [phase] at chosen
      obtain ⟨moment, inside, serves⟩ := chosen
      exact ⟨moment, mem_handlerStates_concat inside, serves⟩
  | registered nodeId sender =>
      rw [phase] at chosen
      obtain ⟨moment, inside, serves⟩ := chosen
      exact ⟨moment, mem_handlerStates_concat inside, serves⟩
  | _ => trivial

theorem Chosen.offer (chosen : Chosen history id call)
    (delivered : RequestEvent) : Chosen history id (call.offer delivered) := by
  unfold ChatCall.offer
  split
  · exact chosen
  · exact chosen

private theorem isSome_call_of_requested
    (run : (fleetManager app).Run history final)
    (requested : handlerStates history id ≠ []) :
    (final.calls.lookup id).isSome = true := by
  induction run with
  | start => exact absurd rfl requested
  | @next earlier before after event run taken ih =>
      by_cases started : handlerStates earlier id = []
      · have first : event.requests id = true := by
          by_contra quiet
          refine requested ?_
          rw [handlerStates, List.map_eq_nil_iff] at started ⊢
          rw [List.dropWhile_append, started]
          simp [quiet]
        cases event with
        | request other body nodes =>
            obtain rfl : other = id := eq_of_beq first
            obtain ⟨-, -, rfl⟩ := stepRequest_cases taken
            exact Option.isSome_iff_exists.mpr ⟨_, AList.lookup_insert _⟩
        | _ => cases first
      · obtain ⟨call, found⟩ := Option.isSome_iff_exists.mp (ih started)
        obtain ⟨grown, known, -⟩ := calls_step taken found
        exact Option.isSome_iff_exists.mpr ⟨grown, known⟩

private theorem chosen_request {body : Json} {nodes : List NodeState}
    (run : (fleetManager app).Run history before)
    (taken : step app before (.request id body nodes) = some after)
    (found : after.calls.lookup id = some call) :
    Chosen (history ++ [(before, .request id body nodes)]) id call := by
  obtain ⟨fresh, listed, rfl⟩ := stepRequest_cases taken
  obtain rfl := Option.some.inj ((AList.lookup_insert _).symm.trans found)
  have unstarted : handlerStates history id = [] := by
    by_contra started
    have known := isSome_call_of_requested run started
    rw [fresh] at known
    cases known
  have head : (handlerStates (history ++ [(before, .request id body nodes)])
      id).head? = some before := by
    rw [handlerStates, List.map_eq_nil_iff] at unstarted
    rw [handlerStates, List.dropWhile_append, unstarted]
    simp [Event.requests]
  unfold Chosen startCall
  cases (body.get "model").bind Json.asStr with
  | none => trivial
  | some model =>
      cases picked : Router.pickNode nodes model app.weights with
      | none => simp only [picked]
      | some nodeId =>
          obtain ⟨node, inside, same, serves⟩ := Router.pickNode_cases picked
          obtain ⟨key, known⟩ :=
            Registry.mem_snapshot_iff.mp (listed.mem_iff.mp inside)
          obtain rfl : node.nodeId = key := keyed_run run key node known
          simp only [picked]
          exact ⟨before, node, head, by rw [← same]; exact known, serves⟩

private theorem chosen_lookupSender
    (chosen : ∀ call, before.calls.lookup id = some call →
      Chosen history id call)
    (keeps : keepsTarget history before (.lookupSender id) = true)
    (taken : step app before (.lookupSender id) = some after)
    (found : after.calls.lookup id = some call) :
    Chosen (history ++ [(before, .lookupSender id)]) id call := by
  obtain ⟨old, nodeId, phase, known, picked, rfl, outcome⟩ :=
    stepLookupSender_cases taken
  obtain rfl := Option.some.inj ((AList.lookup_insert _).symm.trans found)
  have chosen := chosen old known
  rw [Chosen, picked] at chosen
  obtain ⟨start, node, head, served, serves⟩ := chosen
  rcases outcome with ⟨sender, looked, rfl⟩ | ⟨-, rfl⟩
  · obtain ⟨current, entry, rfl⟩ := Option.map_eq_some_iff.mp looked
    simp only [keepsTarget, known, picked, entry, head, Option.all_some,
      Option.any_some, Bool.or_eq_true, beq_iff_eq] at keeps
    rcases keeps with ready | same
    · exact ⟨before, mem_handlerStates_last head, nodeId, current, entry, rfl,
        ready⟩
    · rw [Registry.nodeSender, served] at same
      exact ⟨start, List.mem_of_mem_head? (head_handlerStates_concat head),
        nodeId, node, served, Option.some.inj same, serves⟩
  · trivial

private theorem chosen_step (run : (fleetManager app).Run history before)
    (chosen : ∀ id call, before.calls.lookup id = some call →
      Chosen history id call)
    (keeps : keepsTarget history before event = true)
    (taken : step app before event = some after) (id : RequestId)
    (call : ChatCall) (found : after.calls.lookup id = some call) :
    Chosen (history ++ [(before, event)]) id call := by
  by_cases own : event.caller = some id
  · cases event with
    | request other body nodes =>
        obtain rfl := Option.some.inj own
        exact chosen_request run taken found
    | lookupSender other =>
        obtain rfl := Option.some.inj own
        exact chosen_lookupSender (chosen other) keeps taken found
    | registerRequest other =>
        obtain rfl := Option.some.inj own
        obtain ⟨old, nodeId, sender, known, addressed, rfl⟩ :=
          stepRegisterRequest_cases taken
        obtain rfl := Option.some.inj ((AList.lookup_insert _).symm.trans found)
        have kept : Chosen (history ++ [(before, .registerRequest other)])
            other old := (chosen other old known).concat
        rw [Chosen, addressed] at kept
        exact kept
    | send other =>
        obtain rfl := Option.some.inj own
        obtain ⟨_, _, _, _, -, -, -, ⟨-, rfl⟩ | ⟨-, rfl⟩⟩ :=
          stepSend_cases taken
        all_goals
          obtain rfl :=
            Option.some.inj ((AList.lookup_insert _).symm.trans found)
          trivial
    | recv other =>
        obtain rfl := Option.some.inj own
        obtain ⟨_, _, _, -, awaiting,
          ⟨_, _, -, -, rfl⟩ | ⟨_, _, _, -, -, -, rfl⟩ | ⟨-, -, _, rfl⟩⟩ :=
          stepRecv_cases taken
        all_goals
          obtain rfl :=
            Option.some.inj ((AList.lookup_insert _).symm.trans found)
          simp [Chosen, awaiting]
    | disconnect other =>
        obtain rfl := Option.some.inj own
        obtain ⟨_, _, _, -, -, ⟨-, rfl⟩ | ⟨-, rfl⟩⟩ :=
          stepDisconnect_cases taken
        all_goals
          obtain rfl :=
            Option.some.inj ((AList.lookup_insert _).symm.trans found)
          trivial
    | _ => cases own
  · rcases lookup_calls_foreign taken own with same | ⟨delivered, offered⟩
    · exact (chosen id call (same.symm.trans found)).concat
    · obtain ⟨old, known, rfl⟩ :=
        Option.map_eq_some_iff.mp (offered.symm.trans found)
      exact ((chosen id old known).offer delivered).concat

private theorem chosen_run (run : (fleetManager app).Run history final)
    (guarded : Guarded
      (fun earlier state event => keepsTarget earlier state event = true)
      history) :
    ∀ id call, final.calls.lookup id = some call → Chosen history id call := by
  induction run with
  | start =>
      intro id call found
      cases found
  | next run taken ih =>
      obtain ⟨guarded, keeps⟩ := guarded_concat.mp guarded
      exact chosen_step run (ih guarded) keeps taken

/-- In a run whose lookups keep their targets, every prompt goes to a tunnel
that served the model since its handler started. -/
theorem targetServed_guarded (run : (fleetManager app).Run history final)
    (guarded : Guarded
      (fun earlier state event => keepsTarget earlier state event = true)
      history) :
    Guarded TargetServed history := by
  induction run with
  | start => exact Guarded.start
  | next run taken ih =>
      obtain ⟨guarded, -⟩ := guarded_concat.mp guarded
      refine guarded_concat.mpr ⟨ih guarded, ?_⟩
      intro id nodeId tunnel sends call found
      obtain ⟨known, task, same, registered, -, -⟩ :=
        step_of_dispatches taken sends
      obtain rfl := Option.some.inj (same.symm.trans found)
      have chosen := chosen_run run guarded id known same
      rw [Chosen, registered] at chosen
      obtain ⟨moment, inside, serves⟩ := chosen
      exact ⟨moment, List.mem_append_left _ inside, serves⟩

theorem targetServed_guarded_ready :
    ∃ history final, (fleetManager bareApp).Run history final ∧
      dispatch history "r" = some ("node", 0) ∧
      Guarded TargetServed history := by
  obtain ⟨history, final, run, observed⟩ :=
    (fleetManager bareApp).exists_run_of_trace (dispatchEvents "node")
      (fun outcome => dispatch outcome.1 "r" = some ("node", 0) ∧
        admits keepsTarget [] outcome.1 = true)
      (by decide +kernel)
  obtain ⟨dispatched, admitted⟩ := of_decide_eq_true observed
  exact ⟨history, final, run, dispatched,
    targetServed_guarded run (guarded_of_admits admitted)⟩

/-- The node reconnects between its selection and the lookup of its sender: the
prompt goes to a tunnel that has reported no model yet. -/
theorem reconnected_node_gets_prompt :
    ∃ history before after, (fleetManager bareApp).Run history before ∧
      (fleetManager bareApp).step before (.send "r") = some after ∧
      before.dispatches "r" (.send "r") = some ("node", 1) ∧
      ¬ Guarded TargetServed (history ++ [(before, .send "r")]) := by
  obtain ⟨history, before, run, observed⟩ :=
    (fleetManager bareApp).exists_run_of_trace
      [.connect, .receive 0 (.text (.register (plainRegister "node"))),
        .receive 0 (.text (.modelStatus ⟨"node", ["m"]⟩)),
        .receive 0 (.text (.heartbeat ⟨"node", idleMetrics, .awake⟩)),
        .request "r" (.object [("model", .string "m")]) [readyNode "node" 0],
        .connect, .receive 1 (.text (.register (plainRegister "node"))),
        .lookupSender "r", .registerRequest "r"]
      (fun outcome =>
        ((fleetManager bareApp).step outcome.2 (.send "r")).isSome ∧
        outcome.2.dispatches "r" (.send "r") = some ("node", 1) ∧
        (outcome.2.calls.lookup "r").any (·.model == "m") ∧
        (handlerStates outcome.1 "r" ++ [outcome.2]).all fun moment =>
          moment.registry.nodes.entries.all fun entry =>
            !(entry.2.tx == 1 && entry.2.canServe "m"))
      (by decide +kernel)
  obtain ⟨enabled, dispatched, known, unready⟩ := of_decide_eq_true observed
  obtain ⟨after, taken⟩ := Option.isSome_iff_exists.mp enabled
  obtain ⟨call, found, model⟩ := (Option.any_eq_true _ _).mp known
  refine ⟨history, before, after, run, taken, dispatched, fun guarded => ?_⟩
  obtain ⟨moment, inside, key, node, entry, target, serves⟩ :=
    (guarded_concat.mp guarded).2 "r" "node" 1 dispatched call found
  have each := List.all_eq_true.mp (List.all_eq_true.mp unready moment inside)
    ⟨key, node⟩ (AList.mem_lookup_iff.mp entry)
  rw [eq_of_beq model] at serves
  simp [target, serves] at each

end JwSwarm.FleetManager
