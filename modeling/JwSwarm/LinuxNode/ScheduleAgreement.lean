import JwSwarm.LinuxNode.Reregistration

namespace JwSwarm.LinuxNode

open Data Proto Transition FleetManager Machine

/-! What the Fleet Manager takes the node's schedule to be, after the frames of
the latest connection. -/

/-- A `Register` puts the node to sleep, until its next heartbeat. -/
def hearSchedule (nodeId : NodeId) (known : Option ScheduleStateValue) :
    Message → Option ScheduleStateValue
  | .register register =>
      if register.nodeId = nodeId then some .asleep else known
  | .heartbeat heartbeat =>
      if heartbeat.nodeId = nodeId then
        known.map fun _ => heartbeat.scheduleState
      else known
  | .scheduleState schedule =>
      if schedule.nodeId = nodeId then known.map fun _ => schedule.state
      else known
  | _ => known

def hears (nodeId : NodeId) (known : Option ScheduleStateValue)
    (frames : List Message) : Option ScheduleStateValue :=
  frames.foldl (hearSchedule nodeId) known

def schedule (peer : Peer) (nodeId : NodeId) : Option ScheduleStateValue :=
  (peer.registry.nodes.lookup nodeId).map NodeState.scheduleState

/-- The frames of a tunnel, each processed at its time. -/
def processAll (app : AppState) (tunnel : TunnelId) (peer : Peer)
    (frames : List (ℕ × Message)) : Peer :=
  frames.foldl (fun peer (now, msg) => peer.process app tunnel now msg) peer

variable {app : AppState} {tunnel : TunnelId} {config : Config} {host : Host}
variable {awake : Bool} {peer : Peer} {nodeId : NodeId} {msg : Message}
variable {known : Option ScheduleStateValue} {frames : List Message}

theorem schedule_modifyNode (registry : Registry) (other : NodeId)
    (change : NodeState → NodeState) (state : Option ScheduleStateValue)
    (changes : ∀ node, (change node).scheduleState =
      state.getD node.scheduleState) :
    ((registry.modifyNode other change).nodes.lookup nodeId).map
        NodeState.scheduleState =
      if other = nodeId then
        ((registry.nodes.lookup nodeId).map NodeState.scheduleState).map
          state.getD
      else (registry.nodes.lookup nodeId).map NodeState.scheduleState := by
  rw [Registry.lookup_modifyNode]
  by_cases same : nodeId = other
  · rw [if_pos same, if_pos same.symm]
    cases registry.nodes.lookup nodeId with
    | none => rfl
    | some node => exact congrArg some (changes node)
  · rw [if_neg same, if_neg (Ne.symm same)]

private theorem schedule_process (now : ℕ) :
    schedule (peer.process app tunnel now msg) nodeId =
      hearSchedule nodeId (schedule peer nodeId) msg := by
  cases msg with
  | register register =>
      simp only [Peer.process, schedule, handleMessage, handleRegister,
        hearSchedule, Registry.lookup_upsertNode]
      by_cases same : nodeId = register.nodeId
      · simp [same]
      · simp [same, Ne.symm same]
  | modelStatus status =>
      refine (schedule_modifyNode peer.registry status.nodeId
        (fun node => { node with readyModels := status.readyModels }) none
        fun _ => rfl).trans ?_
      cases found : peer.registry.nodes.lookup nodeId with
      | none => simp [hearSchedule, schedule, found]
      | some node => simp [hearSchedule, schedule, found]
  | heartbeat heartbeat =>
      simp only [Peer.process, schedule, handleMessage,
        registry_handleHeartbeat]
      exact schedule_modifyNode _ _ _ (some heartbeat.scheduleState)
        fun _ => rfl
  | scheduleState schedule =>
      exact schedule_modifyNode _ _ _ (some schedule.state) fun _ => rfl
  | catalogRequest => rfl
  | tokenChunk chunk => rfl
  | done done => rfl
  | error error => rfl
  | catalogResponse response => rfl
  | promptDispatch prompt => rfl

private theorem schedule_processAll {timed : List (ℕ × Message)} :
    schedule (processAll app tunnel peer timed) nodeId =
      hears nodeId (schedule peer nodeId) (timed.map Prod.snd) := by
  induction timed generalizing peer with
  | nil => rfl
  | cons first rest ih =>
      rw [processAll, List.foldl_cons, ← processAll, ih, schedule_process]
      rfl

def LoopOp.sends : LoopOp → Option Message
  | .send msg => some msg
  | _ => none

def RunState.unheard (state : RunState) : List Message :=
  state.queue ++ state.todo.filterMap LoopOp.sends

/-- What a step of the run loop or of a task changes in it. -/
inductive Speaks (nodeId : NodeId) (before after : RunState) : Prop
  | nothing (heard : ∀ known,
        hears nodeId known after.unheard = hears nodeId known before.unheard)
      (awake : after.awake = before.awake)
  | heartbeat (heard : ∀ known, hears nodeId known after.unheard =
      (hears nodeId known before.unheard).map
        fun _ => scheduleStateValue after.awake)
  | register (connected : before.connected = true)
      (heard : ∀ known, hears nodeId known after.unheard =
        some (scheduleStateValue after.awake))

variable {before after state : RunState} {event : RunEvent}

/-- Nothing is said of the schedule. -/
def silent (nodeId : NodeId) (msg : Message) : Prop :=
  ∀ known, hearSchedule nodeId known msg = known

theorem hears_cons :
    hears nodeId known (msg :: frames) =
      hears nodeId (hearSchedule nodeId known msg) frames := rfl

theorem hears_append (first last : List Message) :
    hears nodeId known (first ++ last) =
      hears nodeId (hears nodeId known first) last :=
  List.foldl_append

private theorem hears_silent (quiet : ∀ msg ∈ frames, silent nodeId msg) :
    hears nodeId known frames = known := by
  induction frames generalizing known with
  | nil => rfl
  | cons msg rest ih =>
      rw [hears_cons, quiet msg List.mem_cons_self]
      exact ih fun other member => quiet other (List.mem_cons_of_mem _ member)

private theorem hears_between {first middle last : List Message}
    (quiet : ∀ msg ∈ middle, silent nodeId msg) :
    hears nodeId known (first ++ middle ++ last) =
      hears nodeId known (first ++ last) := by
  rw [hears_append, hears_append, hears_silent quiet, ← hears_append]

private theorem silent_toMessage (event : RequestEvent) :
    silent nodeId event.toMessage := by
  intro known
  cases event <;> rfl

private theorem silent_modelStatus (status : ModelStatus) :
    silent nodeId (.modelStatus status) := fun _ => rfl

private theorem filterMap_considers (models : List CatalogModel) :
    (models.map LoopOp.consider ++ [LoopOp.report]).filterMap
      LoopOp.sends = [] := by
  induction models with
  | nil => rfl
  | cons model rest ih => exact ih

theorem Speaks.of_queue (added : List Message)
    (quiet : ∀ msg ∈ added, silent nodeId msg)
    (queue : after.queue = before.queue ++ added)
    (todo : after.todo = before.todo) (awake : after.awake = before.awake) :
    Speaks nodeId before after := by
  refine .nothing (fun known => ?_) awake
  rw [RunState.unheard, queue, todo]
  exact hears_between quiet

theorem hears_heartbeat {metrics : Metrics} :
    hears config.nodeId known [heartbeat config awake metrics] =
      known.map fun _ => scheduleStateValue awake :=
  if_pos rfl

private theorem hears_tick {metrics : Metrics} {awakeNow : Bool} :
    hears config.nodeId known
        [.scheduleState ⟨config.nodeId, scheduleStateValue awakeNow⟩,
          heartbeat config awakeNow metrics] =
      known.map fun _ => scheduleStateValue awakeNow := by
  have told : hearSchedule config.nodeId known
      (.scheduleState ⟨config.nodeId, scheduleStateValue awakeNow⟩) =
        known.map fun _ => scheduleStateValue awakeNow := if_pos rfl
  rw [hears_cons, told, hears_heartbeat, Option.map_map]
  rfl

private theorem hears_registers {metrics : Metrics} :
    hears config.nodeId known
        [.register (register config host), .catalogRequest,
          heartbeat config awake metrics] =
      some (scheduleStateValue awake) := by
  have told : hearSchedule config.nodeId known
      (.register (register config host)) = some .asleep := if_pos rfl
  rw [hears_cons, told, hears_cons]
  exact hears_heartbeat

theorem unheard_of_idle (idle : before.todo = []) :
    before.unheard = before.queue := by
  rw [RunState.unheard, idle]
  exact List.append_nil _

private theorem speaks_loop {rest : List LoopOp} {op : LoopOp}
    (todo : before.todo = op :: rest)
    (looped : LoopStep config before rest op after) :
    Speaks nodeId before after := by
  cases looped with
  | @sent msg =>
      refine .nothing (fun known => ?_) rfl
      rw [RunState.unheard, RunState.unheard, todo]
      exact congrArg _ (List.append_assoc _ [msg] _)
  | considered selected backend unready =>
      refine .nothing (fun known => ?_) rfl
      rw [RunState.unheard, RunState.unheard, todo]
      rfl
  | passed unwanted =>
      refine .nothing (fun known => ?_) rfl
      rw [RunState.unheard, RunState.unheard, todo]
      rfl
  | refused busy =>
      refine .nothing (fun known => ?_) rfl
      rw [RunState.unheard, RunState.unheard, todo]
      rfl
  | claimed free fresh =>
      refine .nothing (fun known => ?_) rfl
      rw [RunState.unheard, RunState.unheard, todo]
      rfl
  | reported =>
      refine .nothing (fun known => ?_) rfl
      rw [RunState.unheard, RunState.unheard, todo, hears_append, hears_append]
      rfl

theorem registers_step {metrics : Metrics} (connected : before.connected = true)
    (taken : step app tunnel config host before (.connectedChanged metrics) =
      some after) :
    hears config.nodeId known after.unheard =
      some (scheduleStateValue after.awake) := by
  obtain ⟨idle, rfl⟩ := wake_eq_some.mp taken
  rw [RunState.unheard, hears_append, if_pos connected]
  exact hears_registers

private theorem speaks_step
    (taken : step app tunnel config host before event = some after)
    (own : ∀ now, event ≠ .process now) :
    Speaks config.nodeId before after := by
  cases event with
  | process now => exact absurd rfl (own now)
  | heartbeatTick awakeNow metrics =>
      obtain ⟨idle, rfl⟩ := wake_eq_some.mp taken
      refine .heartbeat fun known => ?_
      rw [unheard_of_idle idle, RunState.unheard, hears_append]
      by_cases same : awakeNow = before.awake
      · rw [if_pos same]
        exact hears_heartbeat
      · rw [if_neg same]
        exact hears_tick
  | repollTick =>
      obtain ⟨idle, rfl⟩ := wake_eq_some.mp taken
      refine .nothing (fun known => ?_) rfl
      rw [unheard_of_idle idle, RunState.unheard, hears_append]
      split
      · rfl
      · rfl
  | connectedChanged metrics =>
      by_cases connected : before.connected = true
      · exact .register connected fun known => registers_step connected taken
      · obtain ⟨idle, rfl⟩ := wake_eq_some.mp taken
        refine .nothing (fun known => ?_) rfl
        rw [unheard_of_idle idle, RunState.unheard, hears_append,
          if_neg connected]
        rfl
  | catalogResponse models =>
      obtain ⟨idle, rfl⟩ := wake_eq_some.mp taken
      refine .nothing (fun known => ?_) rfl
      rw [unheard_of_idle idle, RunState.unheard, filterMap_considers,
        List.append_nil]
  | connection connected =>
      obtain rfl := Option.some.inj taken
      exact .nothing (fun _ => rfl) rfl
  | loop =>
      obtain ⟨op, rest, todo, looped⟩ := step_loop taken
      exact speaks_loop todo looped
  | download task succeeds =>
      obtain ⟨download, found, ends⟩ := stepDownload_ends taken
      cases ends with
      | succeeded phase => exact .nothing (fun _ => rfl) rfl
      | failed phase => exact .nothing (fun _ => rfl) rfl
  | advance task sizeMb =>
      obtain ⟨download, found, advances⟩ := stepAdvance_advances taken
      cases advances with
      | @finished readyModels phase =>
          exact .of_queue [_] (by simp [silent_modelStatus]) rfl rfl rfl
      | _ => exact .nothing (fun _ => rfl) rfl
  | stream event =>
      obtain rfl := Option.some.inj taken
      exact .of_queue [_] (by simp [silent_toMessage]) rfl rfl rfl

def LinkedState.latest (state : LinkedState) : List Message :=
  state.written.head?.getD []

/-- Whether the latest connection has lost a frame while it was drained. -/
def lostTurn (lost : Bool) (taken : LinkedState × LinkedEvent) : Bool :=
  match taken.2 with
  | .connect => false
  | .write false => lost || decide (taken.1.link = .draining)
  | _ => lost

def lostInDrain (history : History LinkedState LinkedEvent) : Bool :=
  history.foldl lostTurn false

structure Scheduled (config : Config)
    (history : History LinkedState LinkedEvent)
    (state : LinkedState) : Prop where
  connected : state.link ≠ .down → state.run.connected = true
  logged : state.link ≠ .down → state.written ≠ []
  told : state.link ≠ .down → state.changed = false → state.noticed = false →
    lostInDrain history = false → ∀ known,
      hears config.nodeId known (state.latest ++ state.run.unheard) =
        some (scheduleStateValue state.run.awake)

variable {history : History LinkedState LinkedEvent}
variable {old new final : LinkedState} {happens : LinkedEvent}

theorem lostInDrain_concat :
    lostInDrain (history ++ [(old, happens)]) =
      lostTurn (lostInDrain history) (old, happens) := by
  rw [lostInDrain, List.foldl_append]
  rfl

theorem Scheduled.ran {ran : RunState}
    (scheduled : Scheduled config history old)
    (moved : step app tunnel config host old.run event = some ran)
    (process : ∀ now, event ≠ .process now)
    (connection : ∀ connected, event ≠ .connection connected) :
    Scheduled config (history ++ [(old, .run event)])
      { old with run := ran } where
  connected up := by
    rw [step_connected moved connection]
    exact scheduled.connected up
  logged := scheduled.logged
  told up changed noticed whole known := by
    rw [lostInDrain_concat] at whole
    have held := scheduled.told up changed noticed whole
    show hears _ _ (old.latest ++ ran.unheard) = _
    rw [hears_append]
    cases speaks_step moved process with
    | nothing heard awake =>
        rw [heard, awake, ← hears_append]
        exact held known
    | heartbeat heard =>
        rw [heard, ← hears_append, held known]
        rfl
    | register connected heard => exact heard _

theorem Scheduled.step (scheduled : Scheduled config history old)
    (taken : stepLinked app tunnel config host old happens = some new) :
    Scheduled config (history ++ [(old, happens)]) new := by
  cases linkedStep taken with
  | ran moved process connection turn =>
      exact scheduled.ran moved process connection
  | @heard metrics ran noticed moved =>
      have connected : ran.connected = old.run.connected :=
        step_connected moved (by simp)
      constructor
      · intro up
        exact connected.trans (scheduled.connected up)
      · exact scheduled.logged
      · intro up _ _ _ known
        show hears _ _ (old.latest ++ ran.unheard) = _
        rw [hears_append]
        exact registers_step (scheduled.connected up) moved
  | notice changed unheard idle =>
      refine ⟨scheduled.connected, scheduled.logged, ?_⟩
      intro _ _ noticed
      cases noticed
  | connect link =>
      refine ⟨fun _ => rfl, fun _ => List.cons_ne_nil _ _, ?_⟩
      intro _ changed
      cases changed
  | @sent msg rest link next =>
      obtain ⟨latest, past, logs⟩ := List.exists_cons_of_ne_nil
        (scheduled.logged link)
      refine ⟨scheduled.connected, ?_, ?_⟩
      · intro _
        rw [LinkedState.write, logs]
        exact List.cons_ne_nil _ _
      · intro up changed noticed whole known
        rw [lostInDrain_concat] at whole
        have held := scheduled.told up changed noticed whole known
        rw [LinkedState.latest, logs, RunState.unheard, next] at held
        rw [LinkedState.latest, LinkedState.write, logs, RunState.unheard,
          ← held]
        exact congrArg _ (List.append_assoc latest [msg] _)
  | undrained link next =>
      refine ⟨?_, ?_, ?_⟩
      · intro _
        exact scheduled.connected (by rw [link]; simp)
      · intro _
        exact scheduled.logged (by rw [link]; simp)
      · intro _ _ _ whole
        rw [lostInDrain_concat, lostTurn, link] at whole
        simp at whole
  | broken link next =>
      exact ⟨fun up => absurd rfl up, fun up => absurd rfl up,
        fun up => absurd rfl up⟩
  | drained link empty =>
      have up : old.link ≠ .down := by
        rw [link]
        simp
      refine ⟨fun _ => scheduled.connected up, fun _ => scheduled.logged up, ?_⟩
      intro _ changed noticed whole
      rw [lostInDrain_concat] at whole
      exact scheduled.told up changed noticed whole
  | closed link =>
      exact ⟨fun up => absurd rfl up, fun up => absurd rfl up,
        fun up => absurd rfl up⟩

private theorem scheduled_run
    (run : (linkedNode app tunnel config host awake peer).Run history final) :
    Scheduled config history final := by
  apply Run.invariant _ _ run
  · exact ⟨fun up => absurd rfl up, fun up => absurd rfl up,
      fun up => absurd rfl up⟩
  · intro past before event after _ scheduled taken
    exact scheduled.step taken

/-- When the run loop has seen the latest connection and all is written, and no
frame was lost in its drain, whoever processes the frames of that connection
has the node's schedule as the run loop has it. -/
theorem schedule_agrees
    (run : (linkedNode app tunnel config host awake peer).Run history final)
    (up : final.link ≠ .down)
    (seen : final.changed = false ∧ final.noticed = false)
    (written : final.run.todo = [] ∧ final.run.queue = [])
    (whole : lostInDrain history = false) {reader : TunnelId} {fleet : Peer}
    {timed : List (ℕ × Message)} (read : timed.map Prod.snd = final.latest) :
    schedule (processAll app reader fleet timed) config.nodeId =
      some (scheduleStateValue final.run.awake) := by
  have told := (scheduled_run run).told up seen.1 seen.2 whole
    (schedule fleet config.nodeId)
  have heard : final.run.unheard = [] := by
    rw [RunState.unheard, written.1, written.2]
    rfl
  rw [schedule_processAll, read, ← told, heard, List.append_nil]

/-- The node falls asleep on its second connection. -/
theorem schedule_agrees_reconnected :
    ∃ history final, linkedExample.Run history final ∧
      final.run.awake = false ∧
      schedule (processAll bareApp 1 {} (final.latest.map fun msg => (0, msg)))
        "node" = some .asleep := by
  obtain ⟨history, final, run, observed⟩ :=
    linkedExample.exists_run_of_trace
      (firstConnection ++ [.connect, .drained, .notice,
        .run (.connectedChanged idleMetrics), .run .loop, .run .loop,
        .run .loop, .run .loop, .run .loop,
        .run (.heartbeatTick false idleMetrics), .run .loop, .run .loop,
        .write true, .write true, .write true, .write true, .write true,
        .write true])
      (fun outcome => decide (outcome.2.link ≠ .down ∧
        (outcome.2.changed = false ∧ outcome.2.noticed = false) ∧
        (outcome.2.run.todo.isEmpty ∧ outcome.2.run.queue = []) ∧
        lostInDrain outcome.1 = false ∧ outcome.2.run.awake = false))
      (by decide +kernel)
  obtain ⟨up, seen, ⟨idle, empty⟩, whole, asleep⟩ :=
    of_decide_eq_true observed
  refine ⟨history, final, run, asleep, ?_⟩
  refine (schedule_agrees run up seen ⟨List.isEmpty_iff.mp idle, empty⟩ whole
    ?_).trans ?_
  · rw [List.map_map]
    exact List.map_id _
  · rw [asleep]
    rfl

end JwSwarm.LinuxNode
