import JwSwarm.FleetManager.Peer
import JwSwarm.MacNode.Backend

namespace JwSwarm.MacNode

open Data Proto Transition FleetManager FleetManager.FleetState

/-! One completion on its way from the backend through `Tunnel.send` and the
socket to the handler that waits for it in the Fleet Manager. -/

/-- `unsent` are the frames the backend has still to pass to `send`, `tasks` the
detached tasks that have not started, `wire` the frames sent and not received. -/
structure Delivery where
  unsent : List Message
  tasks : List Message := []
  wire : List Message := []
  fleet : FleetState

inductive DeliveryEvent where
  | send
  | start (task : ℕ)
  | receive
  | recv

/-- `send` only creates a detached task; a task that starts while the connection
is up passes its frame to the socket. -/
def stepDelivery (app : AppState) (tunnel : TunnelId) (id : RequestId)
    (state : Delivery) : DeliveryEvent → Option Delivery
  | .send =>
      match state.unsent with
      | [] => none
      | frame :: rest =>
          some { state with unsent := rest, tasks := state.tasks ++ [frame] }
  | .start task => do
      let frame ← state.tasks[task]?
      some { state with
        tasks := state.tasks.eraseIdx task, wire := state.wire ++ [frame] }
  | .receive =>
      match state.wire with
      | [] => none
      | frame :: rest => do
          let fleet ← stepReceive app state.fleet tunnel (.text frame)
          some { state with wire := rest, fleet }
  | .recv => do
      let fleet ← stepRecv state.fleet id
      some { state with fleet }

def delivery (app : AppState) (tunnel : TunnelId) (id : RequestId)
    (frames : List Message) (fleet : FleetState) :
    Machine Delivery DeliveryEvent where
  init := { unsent := frames, fleet }
  step := stepDelivery app tunnel id

def startedFrame : Delivery × DeliveryEvent → Option Message
  | (state, .start task) => state.tasks[task]?
  | _ => none

/-- The schedule: the frames in the order in which their tasks started. -/
def startOrder (history : History Delivery DeliveryEvent) : List Message :=
  history.filterMap startedFrame

def Reads (fleet : FleetState) (tunnel : TunnelId) : Prop :=
  ∃ task, fleet.tunnels[tunnel]? = some task ∧ task.phase = .reading ∧
    task.awaited = none

structure Awaits (fleet : FleetState) (tunnel : TunnelId) (id : RequestId) :
    Prop where
  reads : Reads fleet tunnel
  pending : (fleet.registry.pending.lookup id).map PendingMeta.tx = some id
  handler : ∃ call, fleet.calls.lookup id = some call ∧
    (∃ nodeId, call.phase = .awaiting nodeId tunnel) ∧ call.stream = false ∧
    call.inbox = [] ∧ call.received = []

/-- The handler returned the pieces' text in their order, and had received the
whole completion by then. -/
def Delivered (completion : Completion) (id : RequestId) (fleet : FleetState) :
    Prop :=
  ∃ call, fleet.calls.lookup id = some call ∧
    call.phase = .returned (.completion id call.created call.model
      (joinText completion.chunks) completion.usage) ∧
    call.received.Perm ((completion.tokenChunks id).map .chunk ++
      [.done (completion.done id)])

/-- The task of the `Done` frame starts last, and the order in which the tasks
of the pieces start gives the same text. -/
def InOrder (completion : Completion) (id : RequestId)
    (schedule : List Message) : Prop :=
  ∃ order : List TokenChunk,
    schedule = order.map .tokenChunk ++ [.done (completion.done id)] ∧
      textOf order = joinText completion.chunks

variable {app : AppState} {tunnel : TunnelId} {id : RequestId}
variable {completion : Completion} {fleet next : FleetState}
variable {history : History Delivery DeliveryEvent}
variable {before after final : Delivery} {event : DeliveryEvent}

def asEvent : Message → Option RequestEvent
  | .tokenChunk chunk => some (.chunk chunk)
  | .done done => some (.done done)
  | _ => none

def Completion.events (completion : Completion) (id : RequestId) :
    List RequestEvent :=
  (completion.tokenChunks id).map .chunk ++ [.done (completion.done id)]

theorem filterMap_frames :
    (completion.frames id).filterMap asEvent = completion.events id := by
  rw [Completion.frames, Completion.events, List.filterMap_append,
    List.filterMap_map]
  congr 1
  exact congrFun List.filterMap_eq_map _

theorem bufferedLoop_chunks (content : String) (order : List TokenChunk)
    (rest : List RequestEvent) :
    bufferedLoop content (order.map .chunk ++ rest) =
      bufferedLoop ((order.map TokenChunk.delta).foldl (· ++ ·) content)
        rest := by
  induction order generalizing content with
  | nil => rfl
  | cons chunk order ih =>
      simp only [List.map_cons, List.cons_append, List.foldl_cons]
      exact ih (content ++ chunk.delta)

theorem bufferedLoop_done (order : List TokenChunk) (done : Done) :
    bufferedLoop "" (order.map .chunk ++ [.done done]) =
      some { content := textOf order, usage := done.usage, errored := none } :=
  bufferedLoop_chunks "" order [.done done]

inductive Progress (id : RequestId) (events : List RequestEvent)
    (fleet : FleetState) : Prop where
  | waiting (call : ChatCall) (order : List TokenChunk)
      (found : fleet.calls.lookup id = some call)
      (phase : ∃ nodeId sender, call.phase = .awaiting nodeId sender)
      (buffered : call.stream = false)
      (pending : (fleet.registry.pending.lookup id).map PendingMeta.tx =
        some id)
      (received : call.received = order.map .chunk)
      (whole : call.received ++ call.inbox = events)
  | answered (call : ChatCall) (order : List TokenChunk) (done : Done)
      (found : fleet.calls.lookup id = some call)
      (phase : call.phase = .returned (.completion id call.created call.model
        (textOf order) done.usage))
      (received : call.received = order.map .chunk ++ [.done done])
      (took : call.received <+: events)

theorem Awaits.progress (awaits : Awaits fleet tunnel id) :
    Progress id [] fleet := by
  obtain ⟨call, found, ⟨nodeId, phase⟩, buffered, inbox, received⟩ :=
    awaits.handler
  exact .waiting call [] found ⟨nodeId, tunnel, phase⟩ buffered awaits.pending
    received (by rw [inbox, received, List.append_nil])

private theorem handleMessage_frame (app : AppState) {frame : Message}
    (inside : frame ∈ completion.frames id) :
    ∃ event, asEvent frame = some event ∧
      ∀ registry tx session now,
        (handleMessage app registry tx session now frame).registry = registry ∧
        (handleMessage app registry tx session now frame).awaited = none ∧
        (handleMessage app registry tx session now frame).delivered =
          registry.dispatchEvent id event := by
  rcases List.mem_append.mp inside with inside | inside
  · obtain ⟨chunk, member, rfl⟩ := List.mem_map.mp inside
    have own : chunk.requestId = id := by
      obtain ⟨index, small, rfl⟩ := List.mem_mapIdx.mp member
      rfl
    subst own
    exact ⟨_, rfl, fun registry tx session now => ⟨rfl, rfl, rfl⟩⟩
  · obtain rfl := List.mem_singleton.mp inside
    exact ⟨_, rfl, fun registry tx session now => ⟨rfl, rfl, rfl⟩⟩

theorem Progress.deliver {events : List RequestEvent} {arrived : RequestEvent}
    (progress : Progress id events fleet)
    (registry : next.registry = fleet.registry)
    (calls : next.calls =
      (fleet.deliver (fleet.registry.dispatchEvent id arrived)).calls) :
    Progress id (events ++ [arrived]) next := by
  cases progress with
  | waiting call order found phase buffered pending received whole =>
      obtain ⟨entry, registered, own⟩ := Option.map_eq_some_iff.mp pending
      have listening : call.listening = true := by
        obtain ⟨nodeId, sender, awaiting⟩ := phase
        simp [ChatCall.listening, awaiting]
      refine .waiting { call with inbox := call.inbox ++ [arrived] } order ?_
        phase buffered (by rw [registry]; exact pending) received ?_
      · rw [calls, Registry.dispatchEvent, registered, Option.map_some, own,
          lookup_deliver, if_pos rfl, found, Option.map_some, ChatCall.offer,
          if_pos listening]
      · rw [← List.append_assoc, whole]
  | answered call order done found phase received took =>
      have silent : call.listening = false := by
        simp [ChatCall.listening, phase]
      refine .answered call order done ?_ phase received
        (took.trans (List.prefix_append _ _))
      rw [calls, Registry.dispatchEvent]
      cases fleet.registry.pending.lookup id with
      | none => exact found
      | some entry =>
          rw [Option.map_some, lookup_deliver]
          split
          · rw [found, Option.map_some, ChatCall.offer, if_neg (by simp [silent])]
          · exact found

private theorem stepReceive_frame {frame : Message} {events : List RequestEvent}
    (inside : frame ∈ completion.frames id)
    (progress : Progress id events fleet)
    (taken : stepReceive app fleet tunnel (.text frame) = some next) :
    Reads next tunnel ∧
      Progress id (events ++ (asEvent frame).toList) next := by
  obtain ⟨task, found, reading, -, rfl⟩ := stepReceive_text taken
  obtain ⟨arrived, isEvent, handled⟩ := handleMessage_frame app inside
  obtain ⟨registry, awaited, delivered⟩ :=
    handled fleet.registry tunnel task.session fleet.clock
  constructor
  · have small := (List.getElem?_eq_some_iff.mp found).1
    exact ⟨_, (congrArg (·[tunnel]?) (tunnels_deliver _)).trans
      (List.getElem?_set_self small), reading, awaited⟩
  · rw [isEvent, Option.toList_some]
    apply progress.deliver
    · rw [registry_stepMessage, registry]
    · rw [calls_stepMessage, delivered]

private theorem stepRecv_progress {events : List RequestEvent}
    (sound : ∀ message, .error message ∉ events)
    (progress : Progress id events fleet)
    (taken : stepRecv fleet id = some next) : Progress id events next := by
  obtain ⟨call, nodeId, sender, found, awaiting, result⟩ :=
    stepRecv_cases taken
  cases progress with
  | answered other order done known phase received took =>
      obtain rfl := Option.some.inj (found.symm.trans known)
      rw [phase] at awaiting
      cases awaiting
  | waiting other order known phase buffered pending received whole =>
      obtain rfl := Option.some.inj (found.symm.trans known)
      rcases result with ⟨arrived, rest, inbox, more, rfl⟩ |
        ⟨arrived, rest, exit, inbox, -, exits, rfl⟩ | ⟨-, closed, -⟩
      · have unended : bufferedLoop "" (call.received ++ [arrived]) = none := by
          rcases more with stream | unended
          · rw [buffered] at stream
            cases stream
          · exact unended
        rw [received] at unended
        cases arrived with
        | chunk chunk =>
            refine .waiting _ (order ++ [chunk]) (AList.lookup_insert _)
              phase buffered pending ?_ ?_
            · simp only [received, List.map_append, List.map_singleton]
            · rw [← whole, inbox, List.append_assoc]
              rfl
        | done done =>
            rw [bufferedLoop_done] at unended
            cases unended
        | error error =>
            rw [bufferedLoop_chunks] at unended
            cases unended
      · rw [received] at exits
        cases arrived with
        | chunk chunk =>
            rw [bufferedLoop_chunks] at exits
            cases exits
        | done done =>
            rw [bufferedLoop_done] at exits
            obtain rfl := Option.some.inj exits
            refine .answered _ order done (AList.lookup_insert _) rfl ?_ ?_
            · simp only [received]
            · rw [← whole, inbox]
              exact ⟨rest, by simp⟩
        | error error =>
            refine absurd ?_ (sound error)
            rw [← whole, inbox]
            simp
      · rw [closed] at pending
        cases pending

private theorem tunnels_stepRecv (taken : stepRecv fleet id = some next) :
    next.tunnels = fleet.tunnels := by
  obtain ⟨call, nodeId, sender, -, -,
    ⟨_, _, -, -, rfl⟩ | ⟨_, _, _, -, -, -, rfl⟩ | ⟨-, -, _, rfl⟩⟩ :=
      stepRecv_cases taken
  all_goals rfl

inductive DeliveryStep (app : AppState) (tunnel : TunnelId) (id : RequestId)
    (before : Delivery) : DeliveryEvent → Delivery → Prop
  | send (frame : Message) (rest : List Message)
      (unsent : before.unsent = frame :: rest) :
      DeliveryStep app tunnel id before .send { before with
        unsent := rest, tasks := before.tasks ++ [frame] }
  | start (task : ℕ) (frame : Message)
      (found : before.tasks[task]? = some frame) :
      DeliveryStep app tunnel id before (.start task) { before with
        tasks := before.tasks.eraseIdx task, wire := before.wire ++ [frame] }
  | receive (frame : Message) (rest : List Message) (fleet : FleetState)
      (wire : before.wire = frame :: rest)
      (taken : stepReceive app before.fleet tunnel (.text frame) =
        some fleet) :
      DeliveryStep app tunnel id before .receive { before with
        wire := rest, fleet }
  | recv (fleet : FleetState) (taken : stepRecv before.fleet id = some fleet) :
      DeliveryStep app tunnel id before .recv { before with fleet }

theorem delivery_step
    (taken : stepDelivery app tunnel id before event = some after) :
    DeliveryStep app tunnel id before event after := by
  cases event with
  | send =>
      simp only [stepDelivery] at taken
      split at taken
      · cases taken
      · next frame rest unsent =>
          obtain rfl := Option.some.inj taken
          exact .send frame rest unsent
  | start task =>
      simp only [stepDelivery, Option.bind_eq_bind, Option.bind_eq_some_iff]
        at taken
      obtain ⟨frame, found, taken⟩ := taken
      obtain rfl := Option.some.inj taken
      exact .start task frame found
  | receive =>
      simp only [stepDelivery] at taken
      split at taken
      · cases taken
      · next frame rest wire =>
          simp only [Option.bind_eq_bind, Option.bind_eq_some_iff] at taken
          obtain ⟨fleet, taken, result⟩ := taken
          obtain rfl := Option.some.inj result
          exact .receive frame rest fleet wire taken
  | recv =>
      simp only [stepDelivery, Option.bind_eq_bind, Option.bind_eq_some_iff]
        at taken
      obtain ⟨fleet, taken, result⟩ := taken
      obtain rfl := Option.some.inj result
      exact .recv fleet taken

variable {frames : List Message}

/-- No frame is lost or invented, those started reach the Fleet Manager in the
order of the schedule, and the handler has used a prefix of them. -/
structure Underway (completion : Completion) (tunnel : TunnelId)
    (id : RequestId) (history : History Delivery DeliveryEvent)
    (state : Delivery) : Prop where
  conserved : (startOrder history ++ state.tasks ++ state.unsent).Perm
    (completion.frames id)
  reads : Reads state.fleet tunnel
  progress : ∃ received, startOrder history = received ++ state.wire ∧
    Progress id (received.filterMap asEvent) state.fleet

theorem Underway.started
    (underway : Underway completion tunnel id history final) :
    ∀ frame ∈ startOrder history, frame ∈ completion.frames id :=
  fun _ member => underway.conserved.subset
    (List.mem_append_left _ (List.mem_append_left _ member))

private theorem error_not_mem_events {received : List Message}
    (sound : ∀ frame ∈ received, frame ∈ completion.frames id)
    (error : ProtoError) : .error error ∉ received.filterMap asEvent := by
  intro member
  obtain ⟨frame, inside, same⟩ := List.mem_filterMap.mp member
  have known : RequestEvent.error error ∈ completion.events id := by
    rw [← filterMap_frames]
    exact List.mem_filterMap.mpr ⟨frame, sound frame inside, same⟩
  simp [Completion.events] at known

theorem startOrder_concat :
    startOrder (history ++ [(before, event)]) =
      startOrder history ++ (startedFrame (before, event)).toList := by
  rw [startOrder, List.filterMap_append]
  cases started : startedFrame (before, event) with
  | none => simp [startOrder, started]
  | some frame => simp [startOrder, started]

private theorem underway_step
    (underway : Underway completion tunnel id history before)
    (taken : stepDelivery app tunnel id before event = some after) :
    Underway completion tunnel id (history ++ [(before, event)]) after := by
  obtain ⟨received, order, progress⟩ := underway.progress
  have conserved := underway.conserved
  cases delivery_step taken with
  | send frame rest unsent =>
      have same : startOrder (history ++ [(before, .send)]) =
          startOrder history := startOrder_concat.trans (List.append_nil _)
      refine ⟨?_, underway.reads, received, same.trans order, progress⟩
      rw [unsent] at conserved
      rw [same]
      simpa using conserved
  | start task frame found =>
      have started : startOrder (history ++ [(before, .start task)]) =
          startOrder history ++ [frame] := by
        rw [startOrder_concat, startedFrame, found, Option.toList_some]
      refine ⟨?_, underway.reads, received, ?_, progress⟩
      · obtain ⟨small, rfl⟩ := List.getElem?_eq_some_iff.mp found
        have moved := List.getElem_cons_eraseIdx_perm small
        have whole := ((moved.append_left (startOrder history)).append_right
          before.unsent).trans conserved
        rw [started]
        simpa using whole
      · rw [started, order, List.append_assoc]
  | receive frame rest fleet wire handled =>
      have same : startOrder (history ++ [(before, .receive)]) =
          startOrder history := startOrder_concat.trans (List.append_nil _)
      have inside : frame ∈ completion.frames id :=
        underway.started frame (by rw [order, wire]; simp)
      obtain ⟨reads, progress⟩ := stepReceive_frame inside progress handled
      refine ⟨by rw [same]; exact conserved, reads, received ++ [frame], ?_, ?_⟩
      · rw [same, order, wire, List.append_assoc]
        rfl
      · rw [List.filterMap_append]
        cases isEvent : asEvent frame with
        | none => simpa [isEvent] using progress
        | some event => simpa [isEvent] using progress
  | recv fleet resumed =>
      have same : startOrder (history ++ [(before, .recv)]) =
          startOrder history := startOrder_concat.trans (List.append_nil _)
      have sound : ∀ frame ∈ received, frame ∈ completion.frames id :=
        fun frame member => underway.started frame
          (by rw [order]; exact List.mem_append_left _ member)
      refine ⟨by rw [same]; exact conserved, ?_, received,
        same.trans order, stepRecv_progress (error_not_mem_events sound)
          progress resumed⟩
      obtain ⟨task, found, reading⟩ := underway.reads
      exact ⟨task, by rw [tunnels_stepRecv resumed]; exact found, reading⟩

theorem underway_run (awaits : Awaits fleet tunnel id)
    (run : (delivery app tunnel id (completion.frames id) fleet).Run history
      final) : Underway completion tunnel id history final := by
  apply run.invariant
  · exact {
      conserved := .refl _
      reads := awaits.reads
      progress := ⟨[], rfl, awaits.progress⟩ }
  · intro past before event after _ underway taken
    exact underway_step underway taken

def inboxLength (fleet : FleetState) (id : RequestId) : ℕ :=
  (fleet.calls.lookup id).elim 0 fun call => call.inbox.length

def potential (id : RequestId) (state : Delivery) : ℕ :=
  4 * state.unsent.length + 3 * state.tasks.length + 2 * state.wire.length +
    inboxLength state.fleet id

private theorem inboxLength_deliver
    (delivered : Option (RequestId × RequestEvent))
    (calls : next.calls = (fleet.deliver delivered).calls) :
    inboxLength next id ≤ inboxLength fleet id + 1 := by
  rw [inboxLength, inboxLength, calls]
  cases delivered with
  | none => exact Nat.le_succ _
  | some pair =>
      rw [lookup_deliver]
      split
      · cases fleet.calls.lookup id with
        | none => exact Nat.le_succ _
        | some call =>
            simp only [Option.map_some, Option.elim_some, ChatCall.offer]
            split <;> simp
      · exact Nat.le_succ _

private theorem inboxLength_stepRecv {events : List RequestEvent}
    (progress : Progress id events fleet)
    (taken : stepRecv fleet id = some next) :
    inboxLength next id < inboxLength fleet id := by
  obtain ⟨call, nodeId, sender, found, awaiting, result⟩ :=
    stepRecv_cases taken
  rcases result with ⟨arrived, rest, inbox, -, rfl⟩ |
    ⟨arrived, rest, exit, inbox, -, -, rfl⟩ | ⟨-, closed, -⟩
  · simp [inboxLength, setCall, found, inbox]
  · simp [inboxLength, found, inbox]
  · cases progress with
    | waiting other order known phase buffered pending received whole =>
        rw [closed] at pending
        cases pending
    | answered other order done known phase received took =>
        obtain rfl := Option.some.inj (found.symm.trans known)
        rw [phase] at awaiting
        cases awaiting

private theorem potential_step
    (underway : Underway completion tunnel id history before)
    (taken : stepDelivery app tunnel id before event = some after) :
    potential id after < potential id before := by
  obtain ⟨received, -, progress⟩ := underway.progress
  unfold potential
  cases delivery_step taken with
  | send frame rest unsent =>
      simp only [unsent, List.length_cons, List.length_append, List.length_nil]
      omega
  | start task frame found =>
      have small := (List.getElem?_eq_some_iff.mp found).1
      have fewer := List.length_eraseIdx_add_one small
      simp only [List.length_append, List.length_singleton]
      omega
  | receive frame rest fleet wire handled =>
      obtain ⟨task, -, -, -, rfl⟩ := stepReceive_text handled
      have more : inboxLength
          (stepMessage app before.fleet tunnel task frame) id ≤
            inboxLength before.fleet id + 1 :=
        inboxLength_deliver _ calls_stepMessage
      simp only [wire, List.length_cons]
      omega
  | recv fleet resumed =>
      have less := inboxLength_stepRecv progress resumed
      simp only
      omega

private theorem delivery_length_le (awaits : Awaits fleet tunnel id)
    (run : (delivery app tunnel id (completion.frames id) fleet).Run history
      final) : history.length ≤ 4 * (completion.frames id).length := by
  have bounded := run.length_add_le fun run taken =>
    potential_step (underway_run awaits run) taken
  obtain ⟨call, found, -, -, inbox, -⟩ := awaits.handler
  have start : potential id
      (delivery app tunnel id (completion.frames id) fleet).init =
        4 * (completion.frames id).length := by
    simp [potential, delivery, inboxLength, found, inbox]
  omega

theorem Underway.settled
    (underway : Underway completion tunnel id history final)
    (quiescent : (delivery app tunnel id frames fleet).Quiescent final) :
    final.unsent = [] ∧ final.tasks = [] ∧ final.wire = [] := by
  refine ⟨?_, ?_, ?_⟩
  · cases unsent : final.unsent with
    | nil => rfl
    | cons frame rest =>
        have stuck := quiescent .send
        simp [delivery, stepDelivery, unsent] at stuck
  · cases tasks : final.tasks with
    | nil => rfl
    | cons frame rest =>
        have stuck := quiescent (.start 0)
        simp [delivery, stepDelivery, tasks] at stuck
  · cases wire : final.wire with
    | nil => rfl
    | cons frame rest =>
        have stuck := quiescent .receive
        obtain ⟨task, found, reading, idle⟩ := underway.reads
        simp [delivery, stepDelivery, wire, stepReceive, found, reading,
          idle] at stuck

theorem Progress.settled {events : List RequestEvent}
    (progress : Progress id events fleet)
    (stuck : stepRecv fleet id = none)
    (finished : .done (completion.done id) ∈ events) :
    ∃ call order done, fleet.calls.lookup id = some call ∧
      call.phase = .returned (.completion id call.created call.model
        (textOf order) done.usage) ∧
      call.received = order.map .chunk ++ [.done done] ∧
      call.received <+: events := by
  cases progress with
  | answered call order done found phase received took =>
      exact ⟨call, order, done, found, phase, received, took⟩
  | waiting call order found phase buffered pending received whole =>
      exfalso
      obtain ⟨nodeId, sender, awaiting⟩ := phase
      cases inbox : call.inbox with
      | nil =>
          rw [inbox, List.append_nil, received] at whole
          rw [← whole] at finished
          simp at finished
      | cons arrived rest =>
          simp only [stepRecv, found, awaiting, inbox, buffered,
            Option.bind_eq_bind, Option.bind_some] at stuck
          split at stuck
          · cases stuck
          · split at stuck <;> cases stuck

private theorem map_toMessage_filterMap {schedule : List Message}
    (sound : ∀ frame ∈ schedule, frame ∈ completion.frames id) :
    (schedule.filterMap asEvent).map RequestEvent.toMessage = schedule := by
  induction schedule with
  | nil => rfl
  | cons frame rest ih =>
      obtain ⟨member, others⟩ := List.forall_mem_cons.mp sound
      have whole := ih others
      rcases List.mem_append.mp member with member | member
      · obtain ⟨chunk, -, rfl⟩ := List.mem_map.mp member
        exact congrArg (_ :: ·) whole
      · obtain rfl := List.mem_singleton.mp member
        exact congrArg (_ :: ·) whole

theorem Underway.schedule_eq {order : List TokenChunk} {done : Done}
    (underway : Underway completion tunnel id history final)
    (same : (startOrder history).filterMap asEvent =
      order.map .chunk ++ [.done done]) :
    startOrder history = order.map .tokenChunk ++ [.done done] := by
  rw [← map_toMessage_filterMap underway.started, same, List.map_append,
    List.map_map]
  rfl

private theorem filterMap_inOrder (order : List TokenChunk) (done : Done) :
    (order.map Message.tokenChunk ++ [Message.done done]).filterMap asEvent =
      order.map .chunk ++ [.done done] := by
  rw [List.filterMap_append, List.filterMap_map]
  exact congrArg (· ++ _) (congrFun List.filterMap_eq_map _)

private theorem map_chunk_done_of_prefix {order other : List TokenChunk}
    {done last : Done}
    (inside : order.map RequestEvent.chunk ++ [.done done] <+:
      other.map RequestEvent.chunk ++ [.done last]) :
    order = other ∧ done = last := by
  induction order generalizing other with
  | nil =>
      cases other with
      | nil => simpa using inside
      | cons chunk other => simp at inside
  | cons chunk order ih =>
      cases other with
      | nil => simp at inside
      | cons next other =>
          obtain ⟨same, within⟩ := List.cons_prefix_cons.mp inside
          obtain rfl := RequestEvent.chunk.inj same
          obtain ⟨rfl, same⟩ := ih within
          exact ⟨rfl, same⟩

private theorem Underway.delivered_iff
    (underway : Underway completion tunnel id history final)
    (quiescent : (delivery app tunnel id frames fleet).Quiescent final) :
    Delivered completion id final.fleet ↔
      InOrder completion id (startOrder history) := by
  obtain ⟨unsent, tasks, wire⟩ := underway.settled quiescent
  obtain ⟨received, order, progress⟩ := underway.progress
  rw [wire, List.append_nil] at order
  subst order
  have whole : ((startOrder history).filterMap asEvent).Perm
      (completion.events id) := by
    have conserved := underway.conserved.filterMap asEvent
    rw [unsent, tasks, List.append_nil, List.append_nil, filterMap_frames]
      at conserved
    exact conserved
  have finished : .done (completion.done id) ∈
      (startOrder history).filterMap asEvent :=
    whole.symm.subset (by simp [Completion.events])
  have stuck : stepRecv final.fleet id = none := by
    have disabled := quiescent .recv
    rw [Option.eq_none_iff_forall_ne_some]
    simpa [delivery, stepDelivery] using disabled
  obtain ⟨call, order, done, found, phase, took, inside⟩ :=
    progress.settled stuck finished
  constructor
  · rintro ⟨other, known, answer, all⟩
    obtain rfl := Option.some.inj (found.symm.trans known)
    have text : textOf order = joinText completion.chunks := by
      rw [phase] at answer
      injection answer with same
      injection same
    have complete : call.received = (startOrder history).filterMap asEvent :=
      inside.eq_of_length (all.length_eq.trans whole.length_eq.symm)
    have last : .done done ∈ completion.events id :=
      all.subset (by rw [took]; simp)
    obtain rfl : done = completion.done id := by
      simpa [Completion.events] using last
    exact ⟨order, underway.schedule_eq (complete.symm.trans took), text⟩
  · rintro ⟨scheduled, inOrder, text⟩
    rw [inOrder, filterMap_inOrder] at inside whole
    rw [took] at inside
    obtain ⟨rfl, rfl⟩ := map_chunk_done_of_prefix inside
    refine ⟨call, found, ?_, by rw [took]; exact whole⟩
    rw [phase, text]
    rfl

theorem delivered_iff_inOrder {readyModels : KeySet ModelId}
    {generate : ModelId → Json → Except BackendError Completion}
    {prompt : PromptDispatch}
    (isReady : prompt.model ∈ readyModels)
    (generated : generate prompt.model prompt.payload = .ok completion)
    (awaits : Awaits fleet tunnel prompt.requestId)
    (run : (delivery app tunnel prompt.requestId
      (dispatch readyModels generate prompt) fleet).Run history final) :
    history.length ≤ 4 * (dispatch readyModels generate prompt).length ∧
      ((delivery app tunnel prompt.requestId
          (dispatch readyModels generate prompt) fleet).Quiescent final →
        (Delivered completion prompt.requestId final.fleet ↔
          InOrder completion prompt.requestId (startOrder history))) := by
  rw [dispatch_ok isReady generated] at run ⊢
  exact ⟨delivery_length_le awaits run,
    (underway_run awaits run).delivered_iff⟩

def isFresh (tunnel : TunnelId) (call : ChatCall) : Bool :=
  match call.phase with
  | .awaiting _ sender => sender == tunnel && !call.stream &&
      call.inbox.isEmpty && call.received.isEmpty
  | _ => false

private theorem awaits_of_checks
    (reads : (fleet.tunnels[tunnel]?.any fun task =>
      task.phase == .reading && task.awaited.isNone) = true)
    (pending : (fleet.registry.pending.lookup id).map PendingMeta.tx = some id)
    (handler : (fleet.calls.lookup id).any (isFresh tunnel) = true) :
    Awaits fleet tunnel id := by
  refine ⟨?_, pending, ?_⟩
  · obtain ⟨task, found, idle⟩ := (Option.any_eq_true _ _).mp reads
    simp only [Bool.and_eq_true, beq_iff_eq, Option.isNone_iff_eq_none]
      at idle
    exact ⟨task, found, idle⟩
  · obtain ⟨call, found, fresh⟩ := (Option.any_eq_true _ _).mp handler
    refine ⟨call, found, ?_⟩
    unfold isFresh at fresh
    split at fresh
    · next nodeId sender awaiting =>
        simp only [Bool.and_eq_true, beq_iff_eq, Bool.not_eq_true',
          List.isEmpty_iff] at fresh
        obtain ⟨⟨⟨rfl, buffered⟩, inbox⟩, received⟩ := fresh
        exact ⟨⟨nodeId, awaiting⟩, buffered, inbox, received⟩
    · cases fresh

def hello : Completion where
  chunks := ["Hel", "lo"]
  usage := ⟨1, 2, 3⟩

def helloPrompt : PromptDispatch where
  requestId := "r"
  model := "m"
  payload := .object [("model", .string "m")]

/-- The Fleet Manager has sent the prompt of a buffered request to its node. -/
def promptEvents : List Event :=
  [.connect, .receive 0 (.text (.register (plainRegister "node"))),
    .receive 0 (.text (.modelStatus ⟨"node", ["m"]⟩)),
    .receive 0 (.text (.heartbeat ⟨"node", idleMetrics, .awake⟩)),
    .request "r" helloPrompt.payload [readyNode "node" 0],
    .lookupSender "r", .registerRequest "r", .send "r"]

def helloDelivery (fleet : FleetState) : Machine Delivery DeliveryEvent :=
  delivery bareApp 0 "r" (dispatch (KeySet.empty.insert "m") (fun _ _ => .ok hello)
    helloPrompt) fleet

def sentEvents (schedule : List ℕ) : List DeliveryEvent :=
  [.send, .send, .send] ++ schedule.map .start ++
    [.receive, .receive, .receive, .recv, .recv, .recv]

def isSettled (id : RequestId) (state : Delivery) : Bool :=
  state.unsent.isEmpty && state.tasks.isEmpty && state.wire.isEmpty &&
    (stepRecv state.fleet id).isNone

private def answeredText (id : RequestId) (fleet : FleetState) :
    Option String :=
  (fleet.calls.lookup id).bind fun call =>
    match call.phase with
    | .returned (.completion _ _ _ content _) => some content
    | _ => none

theorem Delivered.answeredText (delivered : Delivered completion id fleet) :
    answeredText id fleet = some (joinText completion.chunks) := by
  obtain ⟨call, found, phase, -⟩ := delivered
  simp [MacNode.answeredText, found, phase]

theorem quiescent_of_isSettled (settled : isSettled id final = true) :
    (delivery app tunnel id frames fleet).Quiescent final := by
  simp only [isSettled, Bool.and_eq_true, List.isEmpty_iff,
    Option.isNone_iff_eq_none] at settled
  obtain ⟨⟨⟨unsent, tasks⟩, wire⟩, stuck⟩ := settled
  intro event
  cases event with
  | send => simp [delivery, stepDelivery, unsent]
  | start task => simp [delivery, stepDelivery, tasks]
  | receive => simp [delivery, stepDelivery, wire]
  | recv => simp [delivery, stepDelivery, stuck]

theorem exists_hello_run (schedule : List ℕ)
    (outcome : History Delivery DeliveryEvent × Delivery → Bool)
    (observed : ((fleetManager bareApp).trace promptEvents [] {}).any
      (fun reached =>
        (reached.2.tunnels[0]?.any fun task =>
          task.phase == .reading && task.awaited.isNone) &&
        (reached.2.registry.pending.lookup "r").map PendingMeta.tx ==
          some "r" &&
        (reached.2.calls.lookup "r").any (isFresh 0) &&
        (((helloDelivery reached.2).trace (sentEvents schedule) []
          (helloDelivery reached.2).init).any outcome)) = true) :
    ∃ fleet, (fleetManager bareApp).Reachable fleet ∧ Awaits fleet 0 "r" ∧
      ∃ history final, (helloDelivery fleet).Run history final ∧
        outcome (history, final) = true := by
  obtain ⟨past, fleet, reached, checks⟩ :=
    (fleetManager bareApp).exists_run_of_trace promptEvents _ observed
  simp only [Bool.and_eq_true, beq_iff_eq] at checks
  obtain ⟨⟨⟨reads, pending⟩, handler⟩, traced⟩ := checks
  exact ⟨fleet, ⟨past, reached⟩, awaits_of_checks reads pending handler,
    (helloDelivery fleet).exists_run_of_trace _ _ traced⟩

theorem delivered_iff_inOrder_hello :
    ∃ fleet, (fleetManager bareApp).Reachable fleet ∧ Awaits fleet 0 "r" ∧
      ∃ history final, (helloDelivery fleet).Run history final ∧
        Delivered hello "r" final.fleet := by
  obtain ⟨fleet, reached, awaits, history, final, run, observed⟩ :=
    exists_hello_run [0, 0, 0]
      (fun outcome => isSettled "r" outcome.2 ∧
        (startOrder outcome.1).filterMap asEvent = hello.events "r")
      (by decide +kernel)
  obtain ⟨settled, scheduled⟩ := of_decide_eq_true observed
  have underway : Underway hello 0 "r" history final :=
    underway_run awaits run
  have inOrder : InOrder hello "r" (startOrder history) :=
    ⟨_, underway.schedule_eq scheduled, textOf_tokenChunks hello "r"⟩
  exact ⟨fleet, reached, awaits, history, final, run,
    ((delivered_iff_inOrder (by decide) rfl awaits run).2
      (quiescent_of_isSettled settled)).mpr inOrder⟩

/-- The task of the second piece starts before the task of the first. -/
theorem pieces_overtake :
    ∃ fleet, (fleetManager bareApp).Reachable fleet ∧ Awaits fleet 0 "r" ∧
      ∃ history final, (helloDelivery fleet).Run history final ∧
        (helloDelivery fleet).Quiescent final ∧
        ¬ Delivered hello "r" final.fleet := by
  obtain ⟨fleet, reached, awaits, history, final, run, observed⟩ :=
    exists_hello_run [1, 0, 0]
      (fun outcome => isSettled "r" outcome.2 ∧
        answeredText "r" outcome.2.fleet = some "loHel")
      (by decide +kernel)
  obtain ⟨settled, text⟩ := of_decide_eq_true observed
  refine ⟨fleet, reached, awaits, history, final, run,
    quiescent_of_isSettled settled, fun delivered => ?_⟩
  rw [delivered.answeredText] at text
  exact absurd text (by decide +kernel)

end JwSwarm.MacNode
