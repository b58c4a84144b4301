import JwSwarm.Data.ListSet
import JwSwarm.FleetManager.System

namespace JwSwarm.FleetManager

open Data Proto Transition FleetState

/-! What one step can do: an inversion lemma for each step function. -/

variable {app : AppState} {state next : FleetState} {tunnel : TunnelId}
variable {id : RequestId} {succeeds : Bool}

def Inbound.ends : Inbound → Bool
  | .close | .readError | .ended => true
  | .text _ | .invalid | .control => false

theorem stepReceive_cases {frame : Inbound}
    (taken : stepReceive app state tunnel frame = some next) :
    ∃ task, state.tunnels[tunnel]? = some task ∧ task.phase = .reading ∧
      task.awaited = none ∧
      ((∃ msg, frame = .text msg ∧
          next = stepMessage app state tunnel task msg) ∨
        (frame.ends = true ∧ next = stepClose state tunnel task) ∨
        ((frame = .invalid ∨ frame = .control) ∧ next = state)) := by
  simp only [stepReceive, Option.bind_eq_bind, Option.bind_eq_some_iff,
    Option.guard_eq_some', Option.isNone_iff_eq_none] at taken
  obtain ⟨task, found, -, ⟨reading, idle⟩, result⟩ := taken
  refine ⟨task, found, reading, idle, ?_⟩
  cases frame with
  | text msg => exact .inl ⟨msg, rfl, (Option.some.inj result).symm⟩
  | invalid => exact .inr (.inr ⟨.inl rfl, (Option.some.inj result).symm⟩)
  | control => exact .inr (.inr ⟨.inr rfl, (Option.some.inj result).symm⟩)
  | close => exact .inr (.inl ⟨rfl, (Option.some.inj result).symm⟩)
  | readError => exact .inr (.inl ⟨rfl, (Option.some.inj result).symm⟩)
  | ended => exact .inr (.inl ⟨rfl, (Option.some.inj result).symm⟩)

theorem stepReceive_text {msg : Message}
    (taken : stepReceive app state tunnel (.text msg) = some next) :
    ∃ task, state.tunnels[tunnel]? = some task ∧ task.phase = .reading ∧
      task.awaited = none ∧ next = stepMessage app state tunnel task msg := by
  obtain ⟨task, found, reading, idle, outcome⟩ := stepReceive_cases taken
  refine ⟨task, found, reading, idle, ?_⟩
  rcases outcome with ⟨_, same, rfl⟩ | ⟨ends, -⟩ | ⟨same | same, -⟩
  · cases same
    rfl
  · cases ends
  · cases same
  · cases same

theorem stepResume_cases
    (taken : stepResume state tunnel succeeds = some next) :
    ∃ task credit db awaited, state.tunnels[tunnel]? = some task ∧
      task.awaited = some credit ∧
      next = { state with
        db, tunnels := state.tunnels.set tunnel { task with awaited } } ∧
      ((credit.touched = true ∧ awaited = none ∧
          state.db.attempt state.clock (.creditPoints credit.nodeId "capacity"
            credit.points credit.source) succeeds = some db) ∨
        (credit.touched = false ∧
          awaited = some { credit with touched := true } ∧
          state.db.attempt state.clock (.touchSessionAwake credit.nodeId
            (deltaSec credit.deltaMs)) succeeds = some db)) := by
  simp only [stepResume, Option.bind_eq_bind, Option.bind_eq_some_iff]
    at taken
  obtain ⟨task, found, credit, awaiting, result⟩ := taken
  split at result
  · next touched =>
      obtain ⟨db, attempted, same⟩ := Option.bind_eq_some_iff.mp result
      exact ⟨task, credit, db, none, found, awaiting,
        (Option.some.inj same).symm, .inl ⟨touched, rfl, attempted⟩⟩
  · next untouched =>
      obtain ⟨db, attempted, same⟩ := Option.bind_eq_some_iff.mp result
      exact ⟨task, credit, db, some { credit with touched := true }, found,
        awaiting, (Option.some.inj same).symm,
        .inr ⟨by simpa using untouched, rfl, attempted⟩⟩

theorem stepWrite_cases
    (taken : stepWrite state tunnel succeeds = some next) :
    ∃ task outbox receiving, state.tunnels[tunnel]? = some task ∧
      task.receiving = true ∧
      next = state.setTunnel tunnel { task with outbox, receiving } := by
  simp only [stepWrite, Option.bind_eq_bind, Option.bind_eq_some_iff,
    Option.guard_eq_some'] at taken
  obtain ⟨task, found, -, receiving, result⟩ := taken
  split at result
  · cases result
  · split at result
    · exact ⟨task, _, task.receiving, found, receiving,
        (Option.some.inj result).symm⟩
    · exact ⟨task, _, _, found, receiving, (Option.some.inj result).symm⟩

theorem stepWriterEnd_cases
    (taken : stepWriterEnd state tunnel = some next) :
    ∃ task, state.tunnels[tunnel]? = some task ∧ task.receiving = true ∧
      task.outbox = [] ∧ state.senderAlive tunnel = false ∧
      next = state.setTunnel tunnel { task with receiving := false } := by
  simp only [stepWriterEnd, Option.bind_eq_bind, Option.bind_eq_some_iff,
    Option.guard_eq_some', List.isEmpty_iff] at taken
  obtain ⟨task, found, -, ⟨receiving, empty, dead⟩, result⟩ := taken
  exact ⟨task, found, receiving, empty, dead, (Option.some.inj result).symm⟩

theorem stepFinish_cases (taken : stepFinish state tunnel = some next) :
    ∃ task, state.tunnels[tunnel]? = some task ∧ task.phase = .closing ∧
      task.receiving = false ∧
      next = state.setTunnel tunnel { task with phase := .finished } := by
  simp only [stepFinish, Option.bind_eq_bind, Option.bind_eq_some_iff,
    Option.guard_eq_some'] at taken
  obtain ⟨task, found, -, ⟨closing, ended⟩, result⟩ := taken
  exact ⟨task, found, closing, ended, (Option.some.inj result).symm⟩

theorem stepRunTask_cases {task : ℕ}
    (taken : stepRunTask state task succeeds = some next) :
    ∃ call rest db, state.tasks[task]? = some (call :: rest) ∧
      state.db.attempt state.clock call succeeds = some db ∧
      next = { state with db, tasks := state.tasks.set task rest } := by
  simp only [stepRunTask, Option.bind_eq_bind, Option.bind_eq_some_iff]
    at taken
  obtain ⟨calls, found, result⟩ := taken
  split at result
  · cases result
  · next call rest =>
      obtain ⟨db, attempted, same⟩ := Option.bind_eq_some_iff.mp result
      exact ⟨call, rest, db, found, attempted, (Option.some.inj same).symm⟩

theorem stepRequest_cases {body : Json} {nodes : List NodeState}
    (taken : stepRequest app state id body nodes = some next) :
    state.calls.lookup id = none ∧ nodes.Perm state.registry.snapshot ∧
      next = state.setCall id (startCall app nodes body) := by
  simp only [stepRequest, Option.bind_eq_bind, Option.bind_eq_some_iff,
    Option.guard_eq_some', Option.isNone_iff_eq_none] at taken
  obtain ⟨-, ⟨fresh, perm⟩, result⟩ := taken
  exact ⟨fresh, perm, (Option.some.inj result).symm⟩

theorem stepLookupSender_cases
    (taken : stepLookupSender state id = some next) :
    ∃ call nodeId phase, state.calls.lookup id = some call ∧
      call.phase = .picked nodeId ∧
      next = state.setCall id { call with phase } ∧
      ((∃ sender, state.registry.nodeSender nodeId = some sender ∧
          phase = .addressed nodeId sender) ∨
        (state.registry.nodeSender nodeId = none ∧
          phase = .returned (.error 503 "selected node disconnected"))) := by
  simp only [stepLookupSender, Option.bind_eq_bind, Option.bind_eq_some_iff]
    at taken
  obtain ⟨call, found, result⟩ := taken
  split at result
  · next nodeId picked =>
      split at result
      · next sender known =>
          exact ⟨call, nodeId, _, found, picked,
            (Option.some.inj result).symm, .inl ⟨sender, known, rfl⟩⟩
      · next unknown =>
          exact ⟨call, nodeId, _, found, picked,
            (Option.some.inj result).symm, .inr ⟨unknown, rfl⟩⟩
  · cases result

theorem stepRegisterRequest_cases
    (taken : stepRegisterRequest state id = some next) :
    ∃ call nodeId sender, state.calls.lookup id = some call ∧
      call.phase = .addressed nodeId sender ∧
      next = { state with
        registry := state.registry.registerRequest id call.model nodeId id
        calls := state.calls.insert id
          { call with phase := .registered nodeId sender } } := by
  simp only [stepRegisterRequest, Option.bind_eq_bind,
    Option.bind_eq_some_iff] at taken
  obtain ⟨call, found, result⟩ := taken
  split at result
  · next nodeId sender addressed =>
      exact ⟨call, nodeId, sender, found, addressed,
        (Option.some.inj result).symm⟩
  · cases result

theorem stepSend_cases (taken : stepSend state id = some next) :
    ∃ call nodeId sender task, state.calls.lookup id = some call ∧
      call.phase = .registered nodeId sender ∧
      state.tunnels[sender]? = some task ∧
      ((task.receiving = true ∧
          next = (state.setTunnel sender { task with
            outbox := task.outbox ++ [.promptDispatch {
              requestId := id, model := call.model
              payload := call.payload }] }).setCall id { call with
              phase := .awaiting nodeId sender
              created := state.clock / 1000 }) ∨
        (task.receiving = false ∧
          next = { state with
            registry := state.registry.completeRequest id
            calls := state.calls.insert id { call with
              phase := .returned
                (.error 503 "failed to dispatch to node") } })) := by
  simp only [stepSend, Option.bind_eq_bind, Option.bind_eq_some_iff] at taken
  obtain ⟨call, found, result⟩ := taken
  split at result
  · next nodeId sender registered =>
      obtain ⟨task, known, result⟩ := Option.bind_eq_some_iff.mp result
      split at result
      · next receiving =>
          exact ⟨call, nodeId, sender, task, found, registered, known,
            .inl ⟨receiving, (Option.some.inj result).symm⟩⟩
      · next ended =>
          exact ⟨call, nodeId, sender, task, found, registered, known,
            .inr ⟨by simpa using ended, (Option.some.inj result).symm⟩⟩
  · cases result

theorem stepRecv_cases (taken : stepRecv state id = some next) :
    ∃ call nodeId sender, state.calls.lookup id = some call ∧
      call.phase = .awaiting nodeId sender ∧
      ((∃ event rest, call.inbox = event :: rest ∧
          (call.stream = true ∨
            bufferedLoop "" (call.received ++ [event]) = none) ∧
          next = state.setCall id { call with
            inbox := rest, received := call.received ++ [event] }) ∨
        (∃ event rest exit, call.inbox = event :: rest ∧
          call.stream = false ∧
          bufferedLoop "" (call.received ++ [event]) = some exit ∧
          next = { state with
            registry := state.registry.completeRequest id
            calls := state.calls.insert id { call with
              inbox := rest, received := call.received ++ [event]
              phase := .returned (respond id call exit) } }) ∨
        (call.inbox = [] ∧ state.registry.pending.lookup id = none ∧
          ∃ response, next = state.setCall id { call with
            phase := .returned response })) := by
  simp only [stepRecv, Option.bind_eq_bind, Option.bind_eq_some_iff] at taken
  obtain ⟨call, found, result⟩ := taken
  split at result
  · next nodeId sender awaiting =>
      refine ⟨call, nodeId, sender, found, awaiting, ?_⟩
      split at result
      · next event rest waiting =>
          split at result
          · next stream =>
              exact .inl ⟨event, rest, waiting, .inl stream,
                (Option.some.inj result).symm⟩
          · next buffered =>
              split at result
              · next pending =>
                  exact .inl ⟨event, rest, waiting, .inr pending,
                    (Option.some.inj result).symm⟩
              · next exit exits =>
                  exact .inr (.inl ⟨event, rest, exit, waiting,
                    by simpa using buffered, exits,
                    (Option.some.inj result).symm⟩)
      · next empty =>
          simp only [Option.bind_eq_some_iff, Option.guard_eq_some',
            Option.isNone_iff_eq_none] at result
          obtain ⟨-, closed, result⟩ := result
          refine .inr (.inr ⟨empty, closed, ?_⟩)
          split at result
          · exact ⟨_, (Option.some.inj result).symm⟩
          · exact ⟨_, (Option.some.inj result).symm⟩
  · cases result

theorem stepDisconnect_cases
    (taken : stepDisconnect state id = some next) :
    ∃ call nodeId sender, state.calls.lookup id = some call ∧
      call.phase = .awaiting nodeId sender ∧
      ((call.stream = true ∧ next = { state with
          registry := state.registry.completeRequest id
          calls := state.calls.insert id
            { call with phase := .abandoned } }) ∨
        (call.stream = false ∧ next = state.setCall id
          { call with phase := .abandoned })) := by
  simp only [stepDisconnect, Option.bind_eq_bind, Option.bind_eq_some_iff]
    at taken
  obtain ⟨call, found, result⟩ := taken
  split at result
  · next nodeId sender awaiting =>
      refine ⟨call, nodeId, sender, found, awaiting, ?_⟩
      split at result
      · next stream =>
          exact .inl ⟨stream, (Option.some.inj result).symm⟩
      · next buffered =>
          exact .inr ⟨by simpa using buffered,
            (Option.some.inj result).symm⟩
  · cases result

/-! What a tunnel shows to the rest of the fleet: whether its read loop runs,
and the node it is registered as. Only the read loop changes either. -/

def Tunnel.standing (task : Tunnel) : Bool × Option NodeId :=
  (task.phase == .reading, task.session.map Session.nodeId)

def FleetState.standings (state : FleetState) : List (Bool × Option NodeId) :=
  state.tunnels.map Tunnel.standing

def Event.isReceive : Event → Bool
  | .receive _ _ => true
  | _ => false

theorem sessionNode_eq {task : Tunnel}
    (found : state.tunnels[tunnel]? = some task) :
    state.sessionNode tunnel = task.session.map Session.nodeId := by
  simp [FleetState.sessionNode, found]

theorem standing_of_reading {task : Tunnel}
    (found : state.tunnels[tunnel]? = some task)
    (reading : task.phase = .reading) :
    state.standings[tunnel]? = some (true, state.sessionNode tunnel) := by
  rw [sessionNode_eq found]
  simp [FleetState.standings, found, Tunnel.standing, reading]

theorem tunnels_quiet_map {β : Type} (observe : Tunnel → β) {event : Event}
    (taken : step app state event = some next)
    (quiet : event.isReceive = false)
    (writer : ∀ (task : Tunnel) (outbox : List Message) (receiving : Bool),
      observe { task with outbox, receiving } = observe task)
    (finish : ∀ task : Tunnel, task.phase = .closing →
      observe { task with phase := .finished } = observe task)
    (resume : ∀ tunnel succeeds, event = .resume tunnel succeeds →
      ∀ (task : Tunnel) (awaited : Option CapacityCredit),
        observe { task with awaited } = observe task) :
    ∃ joined, next.tunnels.map observe =
        state.tunnels.map observe ++ joined ∧
      (joined = [] ∨ joined = [observe {}]) := by
  have unchanged (same : next.tunnels.map observe =
      state.tunnels.map observe) :
      ∃ joined, next.tunnels.map observe =
          state.tunnels.map observe ++ joined ∧
        (joined = [] ∨ joined = [observe {}]) :=
    ⟨[], same.trans (List.append_nil _).symm, .inl rfl⟩
  cases event with
  | receive tunnel frame => cases quiet
  | tick elapsed => cases taken; exact unchanged rfl
  | connect =>
      cases taken
      exact ⟨[observe {}], List.map_append .., .inr rfl⟩
  | resume tunnel succeeds =>
      obtain ⟨task, credit, db, awaited, found, -, rfl, -⟩ :=
        stepResume_cases taken
      exact unchanged
        (map_set_of_eq observe found (resume tunnel succeeds rfl task awaited))
  | write tunnel succeeds =>
      obtain ⟨task, outbox, receiving, found, -, rfl⟩ := stepWrite_cases taken
      exact unchanged (map_set_of_eq observe found (writer task _ _))
  | writerEnd tunnel =>
      obtain ⟨task, found, -, -, -, rfl⟩ := stepWriterEnd_cases taken
      exact unchanged (map_set_of_eq observe found (writer task _ _))
  | finish tunnel =>
      obtain ⟨task, found, closing, -, rfl⟩ := stepFinish_cases taken
      exact unchanged (map_set_of_eq observe found (finish task closing))
  | runTask task succeeds =>
      obtain ⟨call, rest, db, -, -, rfl⟩ := stepRunTask_cases taken
      exact unchanged rfl
  | request id body nodes =>
      obtain ⟨-, -, rfl⟩ := stepRequest_cases taken
      exact unchanged rfl
  | lookupSender id =>
      obtain ⟨call, nodeId, phase, -, -, rfl, -⟩ :=
        stepLookupSender_cases taken
      exact unchanged rfl
  | registerRequest id =>
      obtain ⟨call, nodeId, sender, -, -, rfl⟩ :=
        stepRegisterRequest_cases taken
      exact unchanged rfl
  | send id =>
      obtain ⟨call, nodeId, sender, task, -, -, found,
        ⟨-, rfl⟩ | ⟨-, rfl⟩⟩ := stepSend_cases taken
      · exact unchanged (map_set_of_eq observe found (writer task _ _))
      · exact unchanged rfl
  | recv id =>
      obtain ⟨call, nodeId, sender, -, -,
        ⟨_, _, -, -, rfl⟩ | ⟨_, _, _, -, -, -, rfl⟩ | ⟨-, -, _, rfl⟩⟩ :=
        stepRecv_cases taken
      all_goals exact unchanged rfl
  | disconnect id =>
      obtain ⟨call, nodeId, sender, -, -, ⟨-, rfl⟩ | ⟨-, rfl⟩⟩ :=
        stepDisconnect_cases taken
      all_goals exact unchanged rfl

/-- No event but a received frame changes how a tunnel stands; connecting adds a
tunnel without a session. -/
theorem standings_quiet {event : Event}
    (taken : step app state event = some next)
    (quiet : event.isReceive = false) :
    ∃ joined, next.standings = state.standings ++ joined ∧
      (joined = [] ∨ joined = [(true, none)]) := by
  refine tunnels_quiet_map Tunnel.standing taken quiet ?_ ?_ ?_
  · intro task outbox receiving
    rfl
  · intro task closing
    simp [Tunnel.standing, closing]
  · intro tunnel succeeds same task awaited
    rfl

def Event.caller : Event → Option RequestId
  | .request id _ _ | .lookupSender id | .registerRequest id | .send id
  | .recv id | .disconnect id => some id
  | _ => none

theorem background_step {event : Event}
    (taken : step app state event = some next)
    (background : event.caller = none) (quiet : event.isReceive = false) :
    next.calls = state.calls ∧ next.registry = state.registry := by
  cases event with
  | receive tunnel frame => cases quiet
  | tick elapsed => cases taken; exact ⟨rfl, rfl⟩
  | connect => cases taken; exact ⟨rfl, rfl⟩
  | resume tunnel succeeds =>
      obtain ⟨_, _, _, _, -, -, rfl, -⟩ := stepResume_cases taken
      exact ⟨rfl, rfl⟩
  | write tunnel succeeds =>
      obtain ⟨_, _, _, -, -, rfl⟩ := stepWrite_cases taken
      exact ⟨rfl, rfl⟩
  | writerEnd tunnel =>
      obtain ⟨_, -, -, -, -, rfl⟩ := stepWriterEnd_cases taken
      exact ⟨rfl, rfl⟩
  | finish tunnel =>
      obtain ⟨_, -, -, -, rfl⟩ := stepFinish_cases taken
      exact ⟨rfl, rfl⟩
  | runTask task succeeds =>
      obtain ⟨_, _, _, -, -, rfl⟩ := stepRunTask_cases taken
      exact ⟨rfl, rfl⟩
  | _ => cases background

theorem nodes_quiet {event : Event}
    (taken : step app state event = some next)
    (quiet : event.isReceive = false) :
    next.registry.nodes = state.registry.nodes := by
  cases own : event.caller with
  | none => rw [(background_step taken own quiet).2]
  | some caller =>
      cases event with
      | request id body nodes =>
          obtain ⟨-, -, rfl⟩ := stepRequest_cases taken
          rfl
      | lookupSender id =>
          obtain ⟨_, _, _, -, -, rfl, -⟩ := stepLookupSender_cases taken
          rfl
      | registerRequest id =>
          obtain ⟨_, _, _, -, -, rfl⟩ := stepRegisterRequest_cases taken
          rfl
      | send id =>
          obtain ⟨_, _, _, _, -, -, -, ⟨-, rfl⟩ | ⟨-, rfl⟩⟩ :=
            stepSend_cases taken
          all_goals rfl
      | recv id =>
          obtain ⟨_, _, _, -, -,
            ⟨_, _, -, -, rfl⟩ | ⟨_, _, _, -, -, -, rfl⟩ | ⟨-, -, _, rfl⟩⟩ :=
            stepRecv_cases taken
          all_goals rfl
      | disconnect id =>
          obtain ⟨_, _, _, -, -, ⟨-, rfl⟩ | ⟨-, rfl⟩⟩ :=
            stepDisconnect_cases taken
          all_goals rfl
      | _ => cases own

section Message

variable {registry : Registry} {session : Option Session} {now : ℕ}
variable {msg : Message} {task : Tunnel}

@[simp] theorem registry_deliver
    (event : Option (RequestId × RequestEvent)) :
    (state.deliver event).registry = state.registry := by
  cases event with
  | none => rfl
  | some pair => unfold deliver; simp only; split <;> rfl

@[simp] theorem tunnels_deliver
    (event : Option (RequestId × RequestEvent)) :
    (state.deliver event).tunnels = state.tunnels := by
  cases event with
  | none => rfl
  | some pair => unfold deliver; simp only; split <;> rfl

@[simp] theorem tasks_deliver (event : Option (RequestId × RequestEvent)) :
    (state.deliver event).tasks = state.tasks := by
  cases event with
  | none => rfl
  | some pair => unfold deliver; simp only; split <;> rfl

@[simp] theorem db_deliver (event : Option (RequestId × RequestEvent)) :
    (state.deliver event).db = state.db := by
  cases event with
  | none => rfl
  | some pair => unfold deliver; simp only; split <;> rfl

theorem registry_stepMessage :
    (stepMessage app state tunnel task msg).registry =
      (handleMessage app state.registry tunnel task.session state.clock
        msg).registry := by
  simp [stepMessage]

theorem tasks_stepMessage :
    (stepMessage app state tunnel task msg).tasks =
      state.tasks ++ (handleMessage app state.registry tunnel task.session
        state.clock msg).spawned := by
  simp [stepMessage]

@[simp] theorem db_stepMessage :
    (stepMessage app state tunnel task msg).db = state.db := by
  simp [stepMessage]

theorem calls_stepMessage :
    (stepMessage app state tunnel task msg).calls =
      (state.deliver (handleMessage app state.registry tunnel task.session
        state.clock msg).delivered).calls := by
  simp only [stepMessage]
  cases (handleMessage app state.registry tunnel task.session state.clock
      msg).delivered with
  | none => rfl
  | some delivered =>
      simp only [deliver]
      cases state.calls.lookup delivered.1 with
      | none => rfl
      | some call => rfl

theorem lookup_deliver {channel : RequestId} {event : RequestEvent} :
    (state.deliver (some (channel, event))).calls.lookup id =
      if id = channel then
        (state.calls.lookup id).map fun call => call.offer event
      else state.calls.lookup id := by
  simp only [deliver]
  cases found : state.calls.lookup channel with
  | none =>
      by_cases same : id = channel
      · subst same
        simp [found]
      · simp [same]
  | some call =>
      simp only [setCall, lookup_insert_apply]
      by_cases same : id = channel
      · subst same
        simp [found]
      · simp [same]

theorem standings_stepMessage (reading : task.phase = .reading) :
    (stepMessage app state tunnel task msg).standings =
      state.standings.set tunnel (true,
        (handleMessage app state.registry tunnel task.session state.clock
          msg).session.map Session.nodeId) := by
  simp [stepMessage, standings, List.map_set, Tunnel.standing, reading]

theorem standings_stepClose :
    (stepClose state tunnel task).standings =
      state.standings.set tunnel (false, task.session.map Session.nodeId) := by
  unfold stepClose
  cases task.session with
  | none => exact List.map_set ..
  | some session => exact List.map_set ..

section Heartbeat

variable {heartbeat : Heartbeat}

@[simp] theorem registry_handleHeartbeat :
    (handleHeartbeat app registry session now heartbeat).registry =
      registry.updateMetrics heartbeat.nodeId heartbeat.metrics
        heartbeat.scheduleState := by
  cases session with
  | none => rfl
  | some own => simp only [handleHeartbeat]; split <;> rfl

@[simp] theorem spawned_handleHeartbeat :
    (handleHeartbeat app registry session now heartbeat).spawned = [] := by
  cases session with
  | none => rfl
  | some own => simp only [handleHeartbeat]; split <;> rfl

@[simp] theorem delivered_handleHeartbeat :
    (handleHeartbeat app registry session now heartbeat).delivered =
      none := by
  cases session with
  | none => rfl
  | some own => simp only [handleHeartbeat]; split <;> rfl

end Heartbeat

theorem sessionNode_handleMessage (other : msg.isRegister = false) :
    (handleMessage app registry tunnel session now msg).session.map
      Session.nodeId = session.map Session.nodeId := by
  cases msg with
  | register register => cases other
  | heartbeat heartbeat =>
      simp only [handleMessage, handleHeartbeat]
      cases session with
      | none => rfl
      | some own => simp only; split <;> rfl
  | _ => rfl

private theorem capacityCredit_cases {own : Session}
    {state : ScheduleStateValue} {credit : CapacityCredit}
    (earned : capacityCredit app own now state = some credit) :
    credit.nodeId = own.nodeId ∧ credit.touched = false := by
  simp only [capacityCredit] at earned
  split at earned
  · split at earned
    · obtain rfl := Option.some.inj earned
      exact ⟨rfl, rfl⟩
    · cases earned
  · cases earned

theorem awaited_cases {credit : CapacityCredit}
    (awaits : (handleMessage app registry tunnel session now msg).awaited =
      some credit) :
    ∃ own, session = some own ∧ credit.nodeId = own.nodeId ∧
      credit.touched = false := by
  cases msg with
  | heartbeat heartbeat =>
      simp only [handleMessage, handleHeartbeat] at awaits
      cases session with
      | none => cases awaits
      | some own =>
          simp only at awaits
          split at awaits
          · exact ⟨own, rfl, capacityCredit_cases awaits⟩
          · cases awaits
  | _ => cases awaits

theorem nodeSender_modifyNode (registry : Registry) (nodeId other : NodeId)
    (change : NodeState → NodeState)
    (same : ∀ node, (change node).tx = node.tx) :
    (registry.modifyNode nodeId change).nodeSender other =
      registry.nodeSender other := by
  unfold Registry.nodeSender
  rw [Registry.lookup_modifyNode]
  split
  · simp [Option.map_map, Function.comp_def, same]
  · rfl

theorem nodeSender_handleMessage (other : msg.isRegister = false)
    (nodeId : NodeId) :
    (handleMessage app registry tunnel session now msg).registry.nodeSender
      nodeId = registry.nodeSender nodeId := by
  cases msg with
  | register register => cases other
  | heartbeat heartbeat =>
      rw [handleMessage, registry_handleHeartbeat]
      exact nodeSender_modifyNode registry heartbeat.nodeId nodeId
        (fun node => { node with
          metrics := some heartbeat.metrics
          scheduleState := heartbeat.scheduleState })
        (fun _ => rfl)
  | modelStatus status =>
      exact nodeSender_modifyNode registry status.nodeId nodeId
        (fun node => { node with readyModels := status.readyModels })
        (fun _ => rfl)
  | scheduleState schedule =>
      exact nodeSender_modifyNode registry schedule.nodeId nodeId
        (fun node => { node with scheduleState := schedule.state })
        (fun _ => rfl)
  | _ => rfl

end Message

end JwSwarm.FleetManager
