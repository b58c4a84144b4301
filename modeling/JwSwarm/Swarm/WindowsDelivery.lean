import JwSwarm.Swarm.WindowsAnswers
import JwSwarm.WindowsNode.Sessions

namespace JwSwarm.Swarm

open Data Proto Transition Machine FleetManager
open LinuxNode (frameId framesFor)
open WindowsNode (Reply BackendEvent NodeConfig TunnelClient TunnelEvent
  modelFileMissing Deliveries Delivered Notice backend stepBackend TaskMove task_moves
  accepted refused connected writes breaks)

/-! The Windows backend with the tunnel that its frames leave through. -/

/-- `dropped` is a log of the backend's frames that found no tunnel. -/
structure ServingNode where
  backend : WindowsNode.Backend
  tunnel : TunnelClient := {}
  dropped : List Message := []

/-- `stale` is whether `_tunnel` was read before it last changed. -/
inductive ServingEvent where
  | backend (event : BackendEvent) (stale : Bool)
  | tunnel (event : TunnelEvent)

/-- What a step of the backend sends is queued in the same step, if it finds a
tunnel, and the tunnel has no other frames about requests. -/
def stepServing (config : NodeConfig) (state : ServingNode) :
    ServingEvent → Option ServingNode
  | .backend event stale =>
      if stale && !state.tunnel.cleared then none
      else do
        let backend ← stepBackend state.backend event
        let sent := backend.shared.sent.drop state.backend.shared.sent.length
        some (if state.tunnel.reaches stale then { state with
            backend, tunnel := sent.foldl TunnelClient.send state.tunnel }
          else { state with backend, dropped := state.dropped ++ sent })
  | .tunnel event =>
      if event.frame.isSome then none
      else (TunnelClient.step config state.tunnel event).map fun tunnel =>
        { state with tunnel }

def servingNode (limitMb : ℕ) (config : NodeConfig) :
    Machine ServingNode ServingEvent where
  init := { backend := (backend limitMb).init }
  step := stepServing config

def ServingEvent.fails : ServingEvent → Bool
  | .backend _ _ => false
  | .tunnel event => event.fails

def failedWrites (history : History ServingNode ServingEvent) : ℕ :=
  history.countP fun taken => taken.2.fails

def backendStep : ServingNode × ServingEvent →
    Option (WindowsNode.Backend × BackendEvent)
  | (state, .backend event _) => some (state.backend, event)
  | (_, .tunnel _) => none

def served (history : History ServingNode ServingEvent) :
    History WindowsNode.Backend BackendEvent :=
  history.filterMap backendStep

variable {limitMb : ℕ} {config : NodeConfig}
variable {history : History ServingNode ServingEvent}
variable {before after final : ServingNode} {event : ServingEvent}

theorem failedWrites_concat :
    failedWrites (history ++ [(before, event)]) =
      failedWrites history + event.fails.toNat := by
  rw [failedWrites, List.countP_append]
  cases fails : event.fails with
  | false => simp [fails, failedWrites]
  | true => simp [fails, failedWrites]

theorem served_concat :
    served (history ++ [(before, event)]) =
      served history ++ (backendStep (before, event)).toList := by
  rw [served, List.filterMap_append]
  cases event with
  | backend event stale => rfl
  | tunnel event => rfl

private theorem move_sends {shared next : WindowsNode.Shared}
    {task : WindowsNode.PromptTask} {phase moved : WindowsNode.TaskPhase}
    (move : TaskMove shared task phase next moved) :
    ∃ said : Option Message, next.sent = shared.sent ++ said.toList := by
  cases move with
  | piece promptTokens index nonempty => exact ⟨some _, rfl⟩
  | done promptTokens completionTokens => exact ⟨some _, rfl⟩
  | failed message => exact ⟨some _, rfl⟩
  | release =>
      refine ⟨none, ?_⟩
      unfold WindowsNode.Shared.release
      split
      · exact (List.append_nil _).symm
      · exact (List.append_nil _).symm
  | _ => exact ⟨none, (List.append_nil _).symm⟩

private theorem backend_sends {state next : WindowsNode.Backend}
    {event : BackendEvent} (taken : stepBackend state event = some next) :
    ∃ said : Option Message,
      next.shared.sent = state.shared.sent ++ said.toList := by
  cases event with
  | register id file =>
      obtain rfl := Option.some.inj taken
      exact ⟨none, (List.append_nil _).symm⟩
  | dispatch prompt dir =>
      obtain rfl := Option.some.inj taken
      unfold WindowsNode.Backend.dispatch
      split
      · exact ⟨none, (List.append_nil _).symm⟩
      · exact ⟨some _, rfl⟩
  | task index step =>
      obtain ⟨earlier, task, later, phase, -, -, moved⟩ := task_moves taken
      exact move_sends moved

theorem frameId_message {notice : Notice} {readings : WindowsNode.Readings} :
    frameId (notice.message config readings) = none := by
  cases notice with
  | _ => rfl

theorem framesFor_silent {id : RequestId} {frames : List Message}
    {text : Message} (silent : frameId text = none) :
    framesFor id (frames ++ [text]) = framesFor id frames := by
  rw [framesFor, List.filter_append, List.filter_cons_of_neg (by simp [silent])]
  exact List.append_nil _

private theorem framesFor_step {id : RequestId} {earlier later : Deliveries}
    {loses : Bool} (taken : earlier.Step config loses none later) :
    framesFor id later.posted = framesFor id earlier.posted := by
  cases taken with
  | greet notice left readings next opened =>
      exact framesFor_silent frameId_message
  | notify notice readings opened => exact framesFor_silent frameId_message
  | _ => rfl

/-- The backend by itself, the tunnel by itself, and what passes from the one to
the other. -/
structure Serving (limitMb : ℕ) (history : History ServingNode ServingEvent)
    (state : ServingNode) : Prop where
  run : (backend limitMb).Run (served history) state.backend
  delivered : Delivered state.tunnel.deliveries (failedWrites history)
  frames : ∃ queued,
    Thinned queued state.backend.shared.sent state.dropped.length ∧
      ∀ id, framesFor id state.tunnel.posted = framesFor id queued

theorem Serving.queue {frame : Message} {next : WindowsNode.Backend}
    (serving : Serving limitMb history before)
    (opened : before.tunnel.closed = false)
    (sent : next.shared.sent = before.backend.shared.sent ++ [frame]) :
    Delivered (before.tunnel.send frame).deliveries (failedWrites history) ∧
      ∃ queued, Thinned queued next.shared.sent before.dropped.length ∧
        ∀ id, framesFor id (before.tunnel.send frame).posted =
          framesFor id queued := by
  obtain ⟨queued, thinned, same⟩ := serving.frames
  constructor
  · rw [TunnelClient.deliveries_send]
    exact serving.delivered.post frame opened
  · refine ⟨queued ++ [frame], sent ▸ thinned.concat frame, fun id => ?_⟩
    have both : framesFor id (before.tunnel.posted ++ [frame]) =
        framesFor id (queued ++ [frame]) := by
      have own := same id
      unfold framesFor at own ⊢
      rw [List.filter_append, List.filter_append, own]
    exact both

private theorem Serving.backend_step {event : BackendEvent} {stale : Bool}
    (serving : Serving limitMb history before)
    (taken : stepServing config before (.backend event stale) = some after) :
    Serving limitMb (history ++ [(before, .backend event stale)]) after := by
  obtain ⟨-, taken⟩ := Option.ite_none_left_eq_some.mp taken
  obtain ⟨next, stepped, queued⟩ := Option.bind_eq_some_iff.mp taken
  obtain ⟨said, sent⟩ := backend_sends stepped
  have new : next.shared.sent.drop before.backend.shared.sent.length =
      said.toList := by
    rw [sent]
    exact List.drop_left
  have ran : (backend limitMb).Run
      (served (history ++ [(before, .backend event stale)])) next := by
    rw [served_concat]
    exact serving.run.next stepped
  have counted : failedWrites (history ++ [(before, .backend event stale)]) =
      failedWrites history := failedWrites_concat
  rw [new] at queued
  split at queued
  · next found =>
      obtain rfl := Option.some.inj queued
      cases said with
      | none =>
          rw [Option.toList_none, List.append_nil] at sent
          exact ⟨ran, counted ▸ serving.delivered, sent ▸ serving.frames⟩
      | some frame =>
          obtain ⟨delivered, frames⟩ :=
            serving.queue (TunnelClient.reaches_open found) sent
          exact ⟨ran, counted ▸ delivered, frames⟩
  · obtain rfl := Option.some.inj queued
    obtain ⟨queued, thinned, same⟩ := serving.frames
    refine ⟨ran, counted ▸ serving.delivered, queued, ?_, same⟩
    rw [sent, List.length_append]
    exact thinned.grow said.toList

private theorem Serving.tunnel_step {event : TunnelEvent}
    (serving : Serving limitMb history before)
    (taken : stepServing config before (.tunnel event) = some after) :
    Serving limitMb (history ++ [(before, .tunnel event)]) after := by
  simp only [stepServing] at taken
  split at taken
  · cases taken
  · next silent =>
      obtain ⟨tunnel, stepped, rfl⟩ := Option.map_eq_some_iff.mp taken
      have none : event.frame = none := by simpa using silent
      have moved : before.tunnel.deliveries.Step config event.fails
          event.frame tunnel.deliveries :=
        TunnelClient.step_delivers serving.delivered.connected
          serving.delivered.logged stepped
      obtain ⟨queued, thinned, same⟩ := serving.frames
      constructor
      · rw [served_concat]
        exact (List.append_nil _).symm ▸ serving.run
      · rw [failedWrites_concat]
        exact serving.delivered.taken stepped
      · rw [none] at moved
        exact ⟨queued, thinned, fun id =>
          (framesFor_step moved).trans (same id)⟩

private theorem serving_run
    (run : (servingNode limitMb config).Run history final) :
    Serving limitMb history final := by
  apply Run.invariant _ _ run
  · exact ⟨.start, WindowsNode.delivered_init, [], .refl [], fun _ => rfl⟩
  · intro past before event after _ serving taken
    cases event with
    | backend step stale =>
        exact @Serving.backend_step _ config _ _ _ _ _ serving taken
    | tunnel step => exact @Serving.tunnel_step _ config _ _ _ _ serving taken

theorem Serving.spoiled (serving : Serving limitMb history final)
    (flushed : final.tunnel.phase.inflight ++ final.tunnel.outbound = []) :
    ∃ spoiled : List RequestId,
      spoiled.length ≤ failedWrites history + final.tunnel.abandoned.length +
        final.dropped.length ∧
      ∀ id, id ∉ spoiled →
        framesFor id final.tunnel.written.reverse.flatten =
          framesFor id final.backend.shared.sent := by
  have thinned : Thinned (final.tunnel.written.reverse.flatten ++
      (final.tunnel.phase.inflight ++ final.tunnel.outbound))
      final.tunnel.posted
      (failedWrites history + final.tunnel.abandoned.length) :=
    serving.delivered.thinned
  rw [flushed, List.append_nil] at thinned
  obtain ⟨lost, few, wrote⟩ := thinned.exists_spoiled frameId
  obtain ⟨queued, missed, same⟩ := serving.frames
  obtain ⟨unsent, less, kept⟩ := missed.exists_spoiled frameId
  refine ⟨lost ++ unsent, ?_, fun id clean => ?_⟩
  · rw [List.length_append]
    exact Nat.add_le_add few less
  · rw [List.mem_append, not_or] at clean
    exact (wrote id clean.1).trans ((same id).trans (kept id clean.2))

/-- Once the backend has finished and nothing is under way, the handler of each
request finds the whole reply that the backend sent in what was written over all
connections, save at most one request for each send that failed, which a
connection does once, and for each text that `StopAsync` left behind. -/
theorem windows_delivers
    (run : (servingNode limitMb config).Run history final)
    (finished : ∀ task ∈ final.backend.tasks, task.phase = .finished)
    (flushed : final.tunnel.phase.inflight ++ final.tunnel.outbound = [])
    (distinct : ((accepted (served history) ++ refused (served history)).map
      PromptDispatch.requestId).Nodup) :
    ∃ (replies : List Reply) (spoiled : List RequestId),
      (accepted (served history)).Perm (replies.map Reply.prompt) ∧
      spoiled.length ≤ failedWrites history +
        final.tunnel.abandoned.length + final.dropped.length ∧
      failedWrites history + final.tunnel.live.toNat ≤
        final.tunnel.written.length ∧
      (∀ reply ∈ replies, ∃ ending, reply.ending = some ending ∧
        framesFor reply.prompt.requestId final.backend.shared.sent =
          reply.frames ∧
        (reply.prompt.requestId ∉ spoiled →
          bufferedLoop "" (answers reply.prompt.requestId
            final.tunnel.written.reverse.flatten) =
            some (replyExit reply ending))) ∧
      ∀ prompt ∈ refused (served history),
        framesFor prompt.requestId final.backend.shared.sent =
          [modelFileMissing prompt] ∧
        (prompt.requestId ∉ spoiled →
          bufferedLoop "" (answers prompt.requestId
            final.tunnel.written.reverse.flatten) =
            some (refusedExit prompt)) := by
  have serving := serving_run run
  obtain ⟨replies, prompts, answered, missing, -⟩ :=
    framesFor_sent serving.run finished distinct
  obtain ⟨spoiled, few, whole⟩ := serving.spoiled flushed
  refine ⟨replies, spoiled, prompts, few, serving.delivered.counted, ?_, ?_⟩
  · intro reply inside
    obtain ⟨ending, ends, own⟩ := answered reply inside
    exact ⟨ending, ends, own, fun clean =>
      bufferedLoop_frames ends ((whole _ clean).trans own)⟩
  · intro prompt member
    exact ⟨missing prompt member, fun clean =>
      bufferedLoop_refused ((whole _ clean).trans (missing prompt member))⟩

/-- The first connection breaks with the first frame of the backend. -/
private def interruptedEvents : List TunnelEvent :=
  .read :: writes 4 ++ breaks ++ connected ++ .read :: writes 8

private def deliveredEvents : List ServingEvent :=
  connected.map .tunnel ++
    WindowsNode.finishedEvents.map (.backend · false) ++
    interruptedEvents.map .tunnel

theorem windows_delivers_broken :
    ∃ history final,
      (servingNode 10 WindowsNode.exampleConfig).Run history final ∧
      failedWrites history = 1 ∧ (accepted (served history)).length = 2 ∧
      ∃ (replies : List Reply) (spoiled : List RequestId),
        (accepted (served history)).Perm (replies.map Reply.prompt) ∧
        spoiled.length ≤ 1 ∧
        ∀ reply ∈ replies, reply.prompt.requestId ∉ spoiled →
          ∃ ending, reply.ending = some ending ∧
            bufferedLoop "" (answers reply.prompt.requestId
              final.tunnel.written.reverse.flatten) =
              some (replyExit reply ending) := by
  obtain ⟨history, final, run, observed⟩ :=
    (servingNode 10 WindowsNode.exampleConfig).exists_run_of_trace
      deliveredEvents (fun outcome => decide (
        (∀ task ∈ outcome.2.backend.tasks, task.phase = .finished) ∧
        (outcome.2.tunnel.phase.inflight ++
          outcome.2.tunnel.outbound).isEmpty = true ∧
        ((accepted (served outcome.1) ++ refused (served outcome.1)).map
          PromptDispatch.requestId).Nodup ∧
        failedWrites outcome.1 = 1 ∧
        outcome.2.tunnel.abandoned.length + outcome.2.dropped.length = 0 ∧
        (accepted (served outcome.1)).length = 2))
      (by decide +kernel)
  obtain ⟨finished, flushed, distinct, one, kept, two⟩ :=
    of_decide_eq_true observed
  obtain ⟨replies, spoiled, prompts, few, -, answered, -⟩ :=
    windows_delivers run finished (List.isEmpty_iff.mp flushed) distinct
  refine ⟨history, final, run, one, two, replies, spoiled, prompts, ?_, ?_⟩
  · rw [Nat.add_assoc, one, kept] at few
    exact few
  · intro reply inside clean
    obtain ⟨ending, ends, -, written⟩ := answered reply inside
    exact ⟨ending, ends, written clean⟩

end JwSwarm.Swarm
