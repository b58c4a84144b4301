import JwSwarm.LinuxNode.Node

namespace JwSwarm.LinuxNode

open Data Proto Transition FleetManager Machine

/-! The tunnel task: its connections, one after the other, and the frames that
it writes on each from the queue that the rest of the node fills. -/

variable {app : AppState} {tunnel : TunnelId} {config : Config} {host : Host}
variable {awake : Bool} {peer : Peer}

/-- Where `run_loop` stands: without a connection, in the loop that drains the
queue, or in the event loop. -/
inductive Link where
  | down
  | draining
  | serving
  deriving DecidableEq

/-- The queue of `run` is the outbound channel. `written` holds the text frames
of each connection, the latest connection first. `changed` is a change of
`connected` that the run loop has not seen, `noticed` that it is in the branch
that handles one. -/
structure LinkedState where
  run : RunState
  link : Link := .down
  written : List (List Message) := []
  changed : Bool := false
  noticed : Bool := false

/-- `write` takes the next frame from the queue; `drained` finds the queue
empty. -/
inductive LinkedEvent where
  | run (event : RunEvent)
  | notice
  | connect
  | write (succeeds : Bool)
  | drained
  | close

def RunEvent.selected : RunEvent → Bool
  | .heartbeatTick _ _ => true
  | .repollTick => true
  | .catalogResponse _ => true
  | _ => false

namespace LinkedState

def setConnected (state : LinkedState) (connected : Bool) (link : Link) :
    LinkedState :=
  { state with
    run := { state.run with connected }
    link
    changed := true }

/-- A frame leaves the queue; the connection takes it unless the write fails. -/
def write (state : LinkedState) (msg : Message) (rest : List Message)
    (succeeds : Bool) : LinkedState :=
  { state with
    run := { state.run with queue := rest }
    written :=
      if succeeds then state.written.modifyHead (· ++ [msg])
      else state.written }

end LinkedState

/-- A failed write ends the drain, and in the event loop the connection. -/
def stepWrite (state : LinkedState) (succeeds : Bool) : Option LinkedState :=
  match state.run.queue with
  | [] => none
  | msg :: rest =>
      let next := state.write msg rest succeeds
      match state.link with
      | .down => none
      | .draining => some (if succeeds then next
          else { next with link := .serving })
      | .serving => some (if succeeds then next
          else next.setConnected false .down)

def stepLinked (app : AppState) (tunnel : TunnelId) (config : Config)
    (host : Host) (state : LinkedState) : LinkedEvent → Option LinkedState
  | .run (.process _) => none
  | .run (.connection _) => none
  | .run (.connectedChanged metrics) =>
      if state.noticed then
        (step app tunnel config host state.run (.connectedChanged metrics)).map
          fun run => { state with run, noticed := false }
      else none
  | .run event =>
      if state.noticed ∧ event.selected then none
      else (step app tunnel config host state.run event).map fun run =>
        { state with run }
  | .notice =>
      if state.changed ∧ ¬ state.noticed ∧ state.run.todo.isEmpty then
        some { state with changed := false, noticed := true }
      else none
  | .connect =>
      match state.link with
      | .down => some { state.setConnected true .draining with
          written := [] :: state.written }
      | _ => none
  | .write succeeds => stepWrite state succeeds
  | .drained =>
      match state.link, state.run.queue with
      | .draining, [] => some { state with link := .serving }
      | _, _ => none
  | .close =>
      match state.link with
      | .serving => some (state.setConnected false .down)
      | _ => none

/-- The tunnel task is spawned before `run` queues its first two messages. -/
def linkedNode (app : AppState) (tunnel : TunnelId) (config : Config)
    (host : Host) (awake : Bool) (peer : Peer) :
    Machine LinkedState LinkedEvent where
  init := { run := {
    awake
    todo := [.send (.register (register config host)), .send .catalogRequest]
    queue := []
    peer } }
  step := stepLinked app tunnel config host

def startsWithRegister (frames : List Message) : Bool :=
  frames.head?.all Message.isRegister

def RegisterFirst (state : LinkedState) : Prop :=
  ∀ frames ∈ state.written, startsWithRegister frames = true

/-- The connection is up and has carried no text frame. -/
def LinkedState.fresh (state : LinkedState) : Bool :=
  decide (state.link ≠ .down) && state.written.head?.any List.isEmpty

def queued (config : Config) (state : RunState) : RunEvent → Option Message
  | .loop =>
      match state.todo with
      | .send msg :: _ => some msg
      | _ => none
  | .advance task _ =>
      match (state.downloads[task]?).map Download.phase with
      | some (.reporting readyModels) =>
          some (.modelStatus { nodeId := config.nodeId, readyModels })
      | _ => none
  | .stream event => some event.toMessage
  | _ => none

/-- A connection comes up, or the drain loses its first frame, only while the
queue is empty or has a Register in front; and what is queued first for a
connection that has carried nothing is a Register. -/
def registersFirst (config : Config) (state : LinkedState) :
    LinkedEvent → Bool
  | .connect => startsWithRegister state.run.queue
  | .write false =>
      decide (state.link = .serving) || !state.fresh ||
        startsWithRegister state.run.queue.tail
  | .run event =>
      !state.fresh || !state.run.queue.isEmpty ||
        (queued config state.run event).all Message.isRegister
  | _ => true

structure Ordered (state : LinkedState) : Prop where
  written : RegisterFirst state
  waiting : state.fresh = true → startsWithRegister state.run.queue = true

variable {history : History LinkedState LinkedEvent}
variable {before after final state : LinkedState} {event : LinkedEvent}
variable {frames queue : List Message} {msg : Message}

theorem startsWithRegister_concat (started : startsWithRegister queue = true)
    (empty : queue = [] → msg.isRegister = true) :
    startsWithRegister (queue ++ [msg]) = true := by
  cases queue with
  | nil => exact empty rfl
  | cons first rest => exact started

theorem Ordered.same (ordered : Ordered before)
    (written : after.written = before.written)
    (link : after.link = before.link)
    (queue : before.fresh = true →
      startsWithRegister after.run.queue = true) : Ordered after where
  written := by
    unfold RegisterFirst
    rw [written]
    exact ordered.written
  waiting := by
    intro fresh
    apply queue
    rwa [LinkedState.fresh, written, link] at fresh

theorem step_queue {run ran : RunState} {event : RunEvent}
    (taken : step app tunnel config host run event = some ran)
    (own : ∀ now, event ≠ .process now) :
    ran.queue = run.queue ++ (queued config run event).toList := by
  cases event with
  | process now => exact absurd rfl (own now)
  | download task succeeds =>
      obtain ⟨download, found, ends⟩ := stepDownload_ends taken
      cases ends with
      | succeeded phase => exact (List.append_nil _).symm
      | failed phase => exact (List.append_nil _).symm
  | advance task sizeMb =>
      obtain ⟨download, found, advances⟩ := stepAdvance_advances taken
      simp only [queued, found, Option.map_some]
      cases advances with
      | finished phase =>
          rw [phase]
          rfl
      | untracked phase | forgiven phase | registered phase | reporting phase =>
          rw [phase]
          exact (List.append_nil _).symm
  | loop =>
      obtain ⟨op, rest, todo, looped⟩ := step_loop taken
      simp only [queued, todo]
      cases looped with
      | sent => rfl
      | considered _ _ _ | passed _ | refused _ | claimed _ _ | reported =>
          exact (List.append_nil _).symm
  | connection connected =>
      obtain rfl := Option.some.inj taken
      simp [queued]
  | stream event =>
      obtain rfl := Option.some.inj taken
      simp [queued, RunState.send]
  | _ =>
      obtain ⟨-, rfl⟩ := wake_eq_some.mp taken
      simp [queued]

/-- What one step does. Only the branch that handles a change takes up what the
loop has seen. -/
inductive LinkedStep (app : AppState) (tunnel : TunnelId) (config : Config)
    (host : Host) (before : LinkedState) : LinkedEvent → LinkedState → Prop
  | ran {event : RunEvent} {ran : RunState}
      (moved : step app tunnel config host before.run event = some ran)
      (process : ∀ now, event ≠ .process now)
      (connection : ∀ connected, event ≠ .connection connected)
      (turn : ¬ (before.noticed = true ∧ event.selected = true)) :
      LinkedStep app tunnel config host before (.run event)
        { before with run := ran }
  | heard {metrics : Metrics} {ran : RunState}
      (noticed : before.noticed = true)
      (moved : step app tunnel config host before.run
        (.connectedChanged metrics) = some ran) :
      LinkedStep app tunnel config host before
        (.run (.connectedChanged metrics))
        { before with run := ran, noticed := false }
  | notice (changed : before.changed = true) (unheard : ¬ before.noticed = true)
      (idle : before.run.todo = []) :
      LinkedStep app tunnel config host before .notice
        { before with changed := false, noticed := true }
  | connect (link : before.link = .down) :
      LinkedStep app tunnel config host before .connect
        { before.setConnected true .draining with
          written := [] :: before.written }
  | sent {msg : Message} {rest : List Message} (link : before.link ≠ .down)
      (next : before.run.queue = msg :: rest) :
      LinkedStep app tunnel config host before (.write true)
        (before.write msg rest true)
  | undrained {msg : Message} {rest : List Message}
      (link : before.link = .draining)
      (next : before.run.queue = msg :: rest) :
      LinkedStep app tunnel config host before (.write false)
        { before.write msg rest false with link := .serving }
  | broken {msg : Message} {rest : List Message}
      (link : before.link = .serving)
      (next : before.run.queue = msg :: rest) :
      LinkedStep app tunnel config host before (.write false)
        ((before.write msg rest false).setConnected false .down)
  | drained (link : before.link = .draining)
      (empty : before.run.queue = []) :
      LinkedStep app tunnel config host before .drained
        { before with link := .serving }
  | closed (link : before.link = .serving) :
      LinkedStep app tunnel config host before .close
        (before.setConnected false .down)

private theorem linkedStep_write {succeeds : Bool}
    (taken : stepWrite before succeeds = some after) :
    LinkedStep app tunnel config host before (.write succeeds) after := by
  unfold stepWrite at taken
  split at taken
  · cases taken
  · next msg rest queue =>
      cases link : before.link with
      | down =>
          rw [link] at taken
          cases taken
      | draining =>
          rw [link] at taken
          obtain rfl := Option.some.inj taken
          cases succeeds with
          | true => exact .sent (by simp [link]) queue
          | false => exact .undrained link queue
      | serving =>
          rw [link] at taken
          obtain rfl := Option.some.inj taken
          cases succeeds with
          | true => exact .sent (by simp [link]) queue
          | false => exact .broken link queue

private theorem linkedStep_run {event : RunEvent}
    (taken : stepLinked app tunnel config host before (.run event) =
      some after) :
    LinkedStep app tunnel config host before (.run event) after := by
  cases event with
  | process now => cases taken
  | connection connected => cases taken
  | connectedChanged metrics =>
      simp only [stepLinked] at taken
      split at taken
      · next noticed =>
          obtain ⟨ran, moved, rfl⟩ := Option.map_eq_some_iff.mp taken
          exact .heard noticed moved
      · cases taken
  | _ =>
      simp only [stepLinked] at taken
      split at taken
      · cases taken
      · next turn =>
          obtain ⟨ran, moved, rfl⟩ := Option.map_eq_some_iff.mp taken
          exact .ran moved nofun nofun turn

theorem linkedStep
    (taken : stepLinked app tunnel config host before event = some after) :
    LinkedStep app tunnel config host before event after := by
  cases event with
  | run event => exact linkedStep_run taken
  | write succeeds => exact linkedStep_write taken
  | notice =>
      simp only [stepLinked] at taken
      split at taken
      · next heard =>
          obtain rfl := Option.some.inj taken
          exact .notice heard.1 heard.2.1 (List.isEmpty_iff.mp heard.2.2)
      · cases taken
  | connect =>
      simp only [stepLinked] at taken
      split at taken
      · next link =>
          obtain rfl := Option.some.inj taken
          exact .connect link
      · cases taken
  | drained =>
      simp only [stepLinked] at taken
      split at taken
      · next link empty =>
          obtain rfl := Option.some.inj taken
          exact .drained link empty
      · cases taken
  | close =>
      simp only [stepLinked] at taken
      split at taken
      · next link =>
          obtain rfl := Option.some.inj taken
          exact .closed link
      · cases taken

theorem Ordered.ran {ran : RunState} {event : RunEvent}
    (ordered : Ordered before)
    (kept : registersFirst config before (.run event) = true)
    (taken : step app tunnel config host before.run event = some ran)
    (own : ∀ now, event ≠ .process now)
    (run : after.run = ran) (written : after.written = before.written)
    (link : after.link = before.link) : Ordered after := by
  apply ordered.same written link
  intro fresh
  rw [run, step_queue taken own]
  have started := ordered.waiting fresh
  cases next : queued config before.run event with
  | none => simpa using started
  | some msg =>
      apply startsWithRegister_concat started
      intro empty
      simpa [registersFirst, fresh, empty, next] using kept

theorem fresh_written (fresh : state.fresh = true) :
    state.link ≠ .down ∧ ∃ past, state.written = [] :: past := by
  obtain ⟨link, empty⟩ := (Bool.and_eq_true _ _).mp fresh
  refine ⟨of_decide_eq_true link, ?_⟩
  cases logs : state.written with
  | nil => simp [logs] at empty
  | cons frames past =>
      rw [logs] at empty
      obtain rfl := List.isEmpty_iff.mp empty
      exact ⟨past, rfl⟩

theorem Ordered.wrote {rest : List Message} (ordered : Ordered before)
    (link : before.link ≠ .down) (next : before.run.queue = msg :: rest) :
    Ordered (before.write msg rest true) := by
  cases logs : before.written with
  | nil =>
      have silent : (before.write msg rest true).written = [] := by
        simp [LinkedState.write, logs]
      constructor
      · intro frames member
        rw [silent] at member
        cases member
      · intro fresh
        obtain ⟨-, past, written⟩ := fresh_written fresh
        rw [silent] at written
        cases written
  | cons frames past =>
      have grown : (before.write msg rest true).written =
          (frames ++ [msg]) :: past := by
        simp [LinkedState.write, logs]
      have earlier : ∀ other ∈ frames :: past,
          startsWithRegister other = true := by
        rw [← logs]
        exact ordered.written
      constructor
      · intro other member
        rw [grown] at member
        rcases List.mem_cons.mp member with rfl | member
        · apply startsWithRegister_concat (earlier frames List.mem_cons_self)
          rintro rfl
          have fresh : before.fresh = true := by
            simp [LinkedState.fresh, link, logs]
          have started := ordered.waiting fresh
          rw [next] at started
          exact started
        · exact earlier other (List.mem_cons_of_mem _ member)
      · intro fresh
        obtain ⟨-, past, written⟩ := fresh_written fresh
        rw [grown] at written
        simp at written

theorem Ordered.closed (ordered : Ordered before)
    (written : after.written = before.written) (link : after.link = .down) :
    Ordered after where
  written := by
    unfold RegisterFirst
    rw [written]
    exact ordered.written
  waiting := by
    intro fresh
    exact absurd link (fresh_written fresh).1

theorem Ordered.undrained {rest : List Message} (ordered : Ordered before)
    (kept : registersFirst config before (.write false) = true)
    (link : before.link = .draining) (next : before.run.queue = msg :: rest) :
    Ordered { before.write msg rest false with link := .serving } where
  written := ordered.written
  waiting := by
    intro fresh
    obtain ⟨-, past, written⟩ := fresh_written fresh
    have logs : before.written = [] :: past := written
    have waiting : before.fresh = true := by
      simp [LinkedState.fresh, link, logs]
    have started : startsWithRegister rest = true := by
      simpa [registersFirst, link, waiting, next] using kept
    exact started

theorem Ordered.step (ordered : Ordered before)
    (kept : registersFirst config before event = true)
    (taken : stepLinked app tunnel config host before event = some after) :
    Ordered after := by
  cases linkedStep taken with
  | ran moved process _ _ => exact ordered.ran kept moved process rfl rfl rfl
  | heard _ moved => exact ordered.ran kept moved nofun rfl rfl rfl
  | notice _ _ _ => exact ordered.same rfl rfl ordered.waiting
  | connect link =>
      constructor
      · intro frames member
        rcases List.mem_cons.mp member with rfl | member
        · rfl
        · exact ordered.written frames member
      · exact fun _ => kept
  | sent link next => exact ordered.wrote link next
  | undrained link next => exact ordered.undrained kept link next
  | broken link next => exact ordered.closed rfl rfl
  | drained link empty =>
      constructor
      · exact ordered.written
      · intro _
        simp [empty, startsWithRegister]
  | closed link => exact ordered.closed rfl rfl

/-- In a run whose steps leave no other message in front, the first text frame
of every connection is a Register. -/
theorem registerFirst_along
    (run : (linkedNode app tunnel config host awake peer).Run history final)
    (kept : Guarded (fun _ state event =>
      registersFirst config state event = true) history) :
    RegisterFirst final := by
  have ordered : Ordered final := by
    apply Run.guarded_invariant _ _ run kept
    · constructor
      · intro frames member
        cases member
      · intro fresh
        cases fresh
    · intro past before event after _ ordered kept taken
      exact ordered.step kept taken
  exact ordered.written

def linkedConfig : Config where
  nodeId := "node"
  hostname := "host"
  limits := { gpuPowerPct := 100, memoryLimitMb := 24576 }
  selectedModels := []

def linkedExample : Machine LinkedState LinkedEvent :=
  linkedNode bareApp 0 linkedConfig { vendor := .nvidia, gpuName := "gpu" }
    true {}

def firstConnection : List LinkedEvent :=
  [.run .loop, .run .loop, .connect, .write true, .write true, .drained,
    .close]

/-- The run loop learns of the second connection and registers on it. -/
theorem registerFirst_reconnected :
    ∃ history final, linkedExample.Run history final ∧
      final.written.map (List.map Message.isRegister) =
        [[true], [true, false]] ∧
      RegisterFirst final := by
  obtain ⟨history, final, run, observed⟩ :=
    linkedExample.exists_run_of_trace
      (firstConnection ++ [.connect, .drained, .notice,
        .run (.connectedChanged idleMetrics), .run .loop, .write true])
      (fun outcome =>
        outcome.2.written.map (List.map Message.isRegister) =
          [[true], [true, false]] ∧
        admits (fun _ state event =>
          registersFirst linkedConfig state event) [] outcome.1 = true)
      (by decide +kernel)
  obtain ⟨written, admitted⟩ := of_decide_eq_true observed
  exact ⟨history, final, run, written,
    registerFirst_along run (guarded_of_admits admitted)⟩

/-- A heartbeat falls due between the connections and is written before the run
loop has heard of the second one. -/
theorem heartbeat_written_before_register :
    ∃ history final, linkedExample.Run history final ∧
      ¬ RegisterFirst final := by
  obtain ⟨history, final, run, observed⟩ :=
    linkedExample.exists_run_of_trace
      (firstConnection ++ [.run (.heartbeatTick true idleMetrics), .run .loop,
        .connect, .write true])
      (fun outcome =>
        !(outcome.2.written.all startsWithRegister))
      (by decide +kernel)
  refine ⟨history, final, run, fun first => ?_⟩
  have all : final.written.all startsWithRegister = true :=
    List.all_eq_true.mpr first
  rw [all] at observed
  cases observed

end JwSwarm.LinuxNode
