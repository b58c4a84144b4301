import JwSwarm.LinuxNode.Connections

namespace JwSwarm.LinuxNode

open Data Proto Transition FleetManager Machine

/-! How the run loop hears of a connection: the watch channel keeps the latest
value only, `changed` tells that one was sent since the loop last looked, and
the loop reads the value after that. -/

variable {app : AppState} {tunnel : TunnelId} {config : Config} {host : Host}
variable {awake : Bool} {peer : Peer} {node : Machine LinkedState LinkedEvent}
variable {history later : History LinkedState LinkedEvent}
variable {before after final : LinkedState} {event : LinkedEvent}

def LinkedEvent.connects : LinkedEvent → Bool
  | .connect => true
  | _ => false

/-- `later` is what happened after the latest connection was announced. -/
def SinceConnect (history later : History LinkedState LinkedEvent) : Prop :=
  (∀ taken ∈ later, taken.2.connects = false) ∧
    ∃ past opened, history = past ++ (opened, .connect) :: later

/-- One of the steps put a Register at the end of the outbound channel. -/
def QueuesRegister (node : Machine LinkedState LinkedEvent)
    (history : History LinkedState LinkedEvent) : Prop :=
  ∃ state event after msg, (state, event) ∈ history ∧
    node.step state event = some after ∧ msg.isRegister = true ∧
    after.run.queue = state.run.queue ++ [msg]

/-- A Register was queued after the latest connection was announced. -/
def RegisteredSince (node : Machine LinkedState LinkedEvent)
    (history : History LinkedState LinkedEvent) : Prop :=
  ∃ later, SinceConnect history later ∧ QueuesRegister node later

/-- The run loop is about to queue a Register. -/
def RunState.Registering (run : RunState) : Prop :=
  ∃ msg, LoopOp.send msg ∈ run.todo ∧ msg.isRegister = true

theorem SinceConnect.start :
    SinceConnect (history ++ [(before, .connect)]) [] :=
  ⟨List.forall_mem_nil _, history, before, rfl⟩

theorem SinceConnect.step (since : SinceConnect history later)
    (same : event.connects = false) :
    SinceConnect (history ++ [(before, event)])
      (later ++ [(before, event)]) := by
  obtain ⟨quiet, past, opened, rfl⟩ := since
  constructor
  · intro taken member
    rcases List.mem_append.mp member with member | member
    · exact quiet taken member
    · obtain rfl := List.mem_singleton.mp member
      exact same
  · exact ⟨past, opened, by simp⟩

theorem QueuesRegister.step (queues : QueuesRegister node later) :
    QueuesRegister node (later ++ [(before, event)]) := by
  obtain ⟨state, event, after, msg, member, grown⟩ := queues
  exact ⟨state, event, after, msg, List.mem_append_left _ member, grown⟩

theorem QueuesRegister.last {msg : Message}
    (taken : node.step before event = some after)
    (register : msg.isRegister = true)
    (grown : after.run.queue = before.run.queue ++ [msg]) :
    QueuesRegister node (later ++ [(before, event)]) :=
  ⟨before, event, after, msg, List.mem_append_right _ List.mem_cons_self,
    taken, register, grown⟩

/-! The news of a live connection is somewhere on its way: unseen, seen but
not read, read but not acted on, or acted on. -/

structure Announced (node : Machine LinkedState LinkedEvent)
    (history : History LinkedState LinkedEvent) (state : LinkedState) :
    Prop where
  connected : state.run.connected = decide (state.link ≠ .down)
  pending : state.link ≠ .down → ∃ later, SinceConnect history later ∧
    (state.changed = true ∨ state.noticed = true ∨ state.run.Registering ∨
      QueuesRegister node later)

private theorem registering_step {run ran : RunState} {event : RunEvent}
    (registering : run.Registering)
    (taken : step app tunnel config host run event = some ran) :
    ran.Registering ∨ ∃ msg, msg.isRegister = true ∧
      ran.queue = run.queue ++ [msg] := by
  obtain ⟨msg, member, register⟩ := registering
  cases event with
  | loop =>
      obtain ⟨op, rest, todo, looped⟩ := step_loop taken
      rw [todo] at member
      rcases List.mem_cons.mp member with rfl | kept
      · cases looped with
        | sent => exact .inr ⟨msg, register, rfl⟩
      · apply Or.inl
        refine ⟨msg, ?_, register⟩
        cases looped with
        | sent | passed _ | refused _ | claimed _ _ => exact kept
        | considered _ _ _ | reported => exact List.mem_cons_of_mem _ kept
  | download task succeeds =>
      obtain ⟨download, found, ends⟩ := stepDownload_ends taken
      left
      cases ends with
      | succeeded phase => exact ⟨msg, member, register⟩
      | failed phase => exact ⟨msg, member, register⟩
  | advance task sizeMb =>
      obtain ⟨download, found, advances⟩ := stepAdvance_advances taken
      left
      cases advances with
      | untracked phase | forgiven phase | registered phase | reporting phase
      | finished phase => exact ⟨msg, member, register⟩
  | connection connected =>
      obtain rfl := Option.some.inj taken
      exact .inl ⟨msg, member, register⟩
  | stream event =>
      obtain rfl := Option.some.inj taken
      exact .inl ⟨msg, member, register⟩
  | process now =>
      obtain ⟨_, _, -, rfl⟩ := step_process taken
      exact .inl ⟨msg, member, register⟩
  | _ =>
      -- the loop does not take another branch with something left to do
      obtain ⟨idle, -⟩ := wake_eq_some.mp taken
      rw [idle] at member
      cases member

private theorem connectedChanged_registering {run ran : RunState}
    {metrics : Metrics}
    (taken : step app tunnel config host run (.connectedChanged metrics) =
      some ran) (connected : run.connected = true) : ran.Registering := by
  obtain ⟨-, rfl⟩ := wake_eq_some.mp taken
  exact ⟨.register (register config host), by simp [connected], rfl⟩

theorem step_connected {run ran : RunState} {event : RunEvent}
    (taken : step app tunnel config host run event = some ran)
    (own : ∀ connected, event ≠ .connection connected) :
    ran.connected = run.connected := by
  cases event with
  | connection connected => exact absurd rfl (own connected)
  | download task succeeds =>
      obtain ⟨download, found, ends⟩ := stepDownload_ends taken
      cases ends with
      | succeeded phase => rfl
      | failed phase => rfl
  | advance task sizeMb =>
      obtain ⟨download, found, advances⟩ := stepAdvance_advances taken
      cases advances with
      | untracked phase | forgiven phase | registered phase | reporting phase
      | finished phase => rfl
  | loop =>
      obtain ⟨op, rest, -, looped⟩ := step_loop taken
      cases looped with
      | sent | considered _ _ _ | passed _ | refused _ | claimed _ _
      | reported => rfl
  | stream event =>
      obtain rfl := Option.some.inj taken
      rfl
  | process now =>
      obtain ⟨_, _, -, rfl⟩ := step_process taken
      rfl
  | _ =>
      obtain ⟨-, rfl⟩ := wake_eq_some.mp taken
      rfl

theorem Announced.ran {event : RunEvent} {ran : RunState}
    (announced : Announced node history before)
    (taken : node.step before (.run event) = some { before with run := ran })
    (moved : LinuxNode.step app tunnel config host before.run event = some ran)
    (connection : ∀ connected, event ≠ .connection connected) :
    Announced node (history ++ [(before, .run event)])
      { before with run := ran } := by
  have connected := (step_connected moved connection).trans announced.connected
  refine ⟨connected, fun up => ?_⟩
  obtain ⟨later, since, pending⟩ := announced.pending up
  refine ⟨_, since.step rfl, ?_⟩
  rcases pending with changed | noticed | registering | queues
  · exact .inl changed
  · exact .inr (.inl noticed)
  · rcases registering_step registering moved with
      registering | ⟨msg, register, grown⟩
    · exact .inr (.inr (.inl registering))
    · exact .inr (.inr (.inr (.last taken register grown)))
  · exact .inr (.inr (.inr queues.step))

theorem Announced.heard {metrics : Metrics} {ran : RunState}
    (announced : Announced node history before)
    (moved : LinuxNode.step app tunnel config host before.run
      (.connectedChanged metrics) = some ran) :
    Announced node (history ++ [(before, .run (.connectedChanged metrics))])
      { before with run := ran, noticed := false } := by
  have connected := (step_connected moved nofun).trans announced.connected
  refine ⟨connected, fun up => ?_⟩
  obtain ⟨later, since, -⟩ := announced.pending up
  refine ⟨_, since.step rfl, .inr (.inr (.inl ?_))⟩
  apply connectedChanged_registering moved
  rw [announced.connected]
  exact decide_eq_true up

theorem Announced.kept (announced : Announced node history before)
    (same : event.connects = false) (link : after.link = .down ↔
      before.link = .down) (run : after.run.connected = before.run.connected)
    (todo : after.run.todo = before.run.todo)
    (changed : before.changed = true →
      after.changed = true ∨ after.noticed = true)
    (noticed : before.noticed = true → after.noticed = true) :
    Announced node (history ++ [(before, event)]) after := by
  constructor
  · rw [run, announced.connected]
    exact decide_eq_decide.mpr (not_congr link.symm)
  · intro up
    obtain ⟨later, since, pending⟩ := announced.pending (link.not.mp up)
    refine ⟨_, since.step same, ?_⟩
    rcases pending with pending | pending | ⟨msg, member, register⟩ | queues
    · rcases changed pending with changed | noticed
      · exact .inl changed
      · exact .inr (.inl noticed)
    · exact .inr (.inl (noticed pending))
    · exact .inr (.inr (.inl ⟨msg, todo ▸ member, register⟩))
    · exact .inr (.inr (.inr queues.step))

theorem Announced.closed (link : after.link = .down)
    (connected : after.run.connected = false) :
    Announced node history after where
  connected := by simp [connected, link]
  pending := fun up => absurd link up

theorem Announced.step (announced : Announced node history before)
    (own : node.step = stepLinked app tunnel config host)
    (taken : node.step before event = some after) :
    Announced node (history ++ [(before, event)]) after := by
  cases linkedStep (own ▸ taken) with
  | ran moved _ connection _ => exact announced.ran taken moved connection
  | heard _ moved => exact announced.heard moved
  | notice _ _ _ =>
      exact announced.kept rfl .rfl rfl rfl (fun _ => .inr rfl) (fun _ => rfl)
  | connect _ =>
      constructor
      · rfl
      · intro up
        exact ⟨[], .start, .inl rfl⟩
  | sent _ _ => exact announced.kept rfl .rfl rfl rfl .inl id
  | undrained link _ | drained link _ =>
      exact announced.kept rfl (by simp [link]) rfl rfl .inl id
  | broken _ _ => exact .closed rfl rfl
  | closed _ => exact .closed rfl rfl

private theorem announced_run
    (run : (linkedNode app tunnel config host awake peer).Run history final) :
    Announced (linkedNode app tunnel config host awake peer) history
      final := by
  apply Run.invariant _ _ run
  · exact .closed rfl rfl
  · intro past before event after _ announced taken
    exact announced.step rfl taken

/-- While a connection is up, a run loop that has seen every notification and
waits in its `select` has put a Register on the outbound channel since it was
announced. -/
theorem registered_of_waiting
    (run : (linkedNode app tunnel config host awake peer).Run history final)
    (up : final.link ≠ .down) (seen : final.changed = false)
    (waiting : final.noticed = false) (idle : final.run.todo = []) :
    RegisteredSince (linkedNode app tunnel config host awake peer)
      history := by
  obtain ⟨later, since, pending⟩ := (announced_run run).pending up
  refine ⟨later, since, ?_⟩
  rcases pending with changed | noticed | ⟨msg, member, -⟩ | queues
  · rw [seen] at changed
    cases changed
  · rw [waiting] at noticed
    cases noticed
  · rw [idle] at member
    cases member
  · exact queues

/-- The first connection closes and the second comes up between `changed` and
the read, so that both are announced at once. -/
theorem registered_after_flap :
    ∃ history final, linkedExample.Run history final ∧
      final.link ≠ .down ∧ RegisteredSince linkedExample history := by
  obtain ⟨history, final, run, observed⟩ :=
    linkedExample.exists_run_of_trace
      [.run .loop, .run .loop, .connect, .notice, .write false, .close,
        .connect, .run (.connectedChanged idleMetrics), .run .loop, .run .loop,
        .run .loop, .run .loop, .run .loop, .notice,
        .run (.connectedChanged idleMetrics), .run .loop, .run .loop,
        .run .loop, .run .loop, .run .loop]
      (fun outcome => decide (outcome.2.link ≠ .down) &&
        (!outcome.2.changed && !outcome.2.noticed &&
          outcome.2.run.todo.isEmpty))
      (by decide +kernel)
  simp only [Bool.and_eq_true, decide_eq_true_eq, Bool.not_eq_true',
    List.isEmpty_iff] at observed
  obtain ⟨up, ⟨seen, waiting⟩, idle⟩ := observed
  exact ⟨history, final, run, up,
    registered_of_waiting run up seen waiting idle⟩

end JwSwarm.LinuxNode
