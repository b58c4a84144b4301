import JwSwarm.LinuxNode.Connections

namespace JwSwarm.LinuxNode

open Data Proto Transition FleetManager Machine

/-! The tunnel task by itself: the channel behind `TunnelHandle.outbound` and
the two loops that take texts from it, over any number of connections. -/

section Task

variable {Text : Type}

/-- `sent` are the texts of all sends that succeeded, in their order. -/
structure Outbound (Text : Type) where
  queue : List Text := []
  link : Link := .down
  sent : List Text := []

inductive OutboundEvent (Text : Type) where
  | put (text : Text)
  | connect
  | send (succeeds : Bool)
  | drained
  | close

/-- A text leaves the channel before the socket takes it. A failed send ends
the drain, and in the event loop the connection. -/
def Outbound.send (state : Outbound Text) (succeeds : Bool) :
    Option (Outbound Text) :=
  match state.link, state.queue with
  | .down, _ => none
  | _, [] => none
  | .draining, text :: rest =>
      some (if succeeds then
        { state with queue := rest, sent := state.sent ++ [text] }
      else { state with queue := rest, link := .serving })
  | .serving, text :: rest =>
      some (if succeeds then
        { state with queue := rest, sent := state.sent ++ [text] }
      else { state with queue := rest, link := .down })

def stepOutbound (state : Outbound Text) :
    OutboundEvent Text → Option (Outbound Text)
  | .put text => some { state with queue := state.queue ++ [text] }
  | .connect =>
      match state.link with
      | .down => some { state with link := .draining }
      | _ => none
  | .send succeeds => state.send succeeds
  | .drained =>
      match state.link, state.queue with
      | .draining, [] => some { state with link := .serving }
      | _, _ => none
  | .close =>
      match state.link with
      | .serving => some { state with link := .down }
      | _ => none

def tunnelTask (Text : Type) :
    Machine (Outbound Text) (OutboundEvent Text) where
  init := {}
  step := stepOutbound

def OutboundEvent.text : OutboundEvent Text → Option Text
  | .put text => some text
  | _ => none

def OutboundEvent.fails : OutboundEvent Text → Bool
  | .send false => true
  | _ => false

def texts (history : History (Outbound Text) (OutboundEvent Text)) :
    List Text :=
  history.filterMap fun taken => taken.2.text

def failures (history : History (Outbound Text) (OutboundEvent Text)) : ℕ :=
  history.countP fun taken => taken.2.fails

/-- Every text that was put on the channel has been sent once or is queued, in
the order in which it was put there. -/
def Conserved (history : History (Outbound Text) (OutboundEvent Text))
    (state : Outbound Text) : Prop :=
  state.sent ++ state.queue = texts history

variable {history : History (Outbound Text) (OutboundEvent Text)}
variable {before after final : Outbound Text} {event : OutboundEvent Text}

structure Tallied (history : History (Outbound Text) (OutboundEvent Text))
    (state : Outbound Text) : Prop where
  ordered : List.Sublist (state.sent ++ state.queue) (texts history)
  counted : (state.sent ++ state.queue).length + failures history =
    (texts history).length

theorem texts_concat : texts (history ++ [(before, event)]) =
    texts history ++ event.text.toList := by
  rw [texts, List.filterMap_append]
  cases event with
  | put text => rfl
  | _ => rfl

theorem failures_concat : failures (history ++ [(before, event)]) =
    failures history + event.fails.toNat := by
  rw [failures, List.countP_append]
  cases fails : event.fails with
  | false => simp [fails, failures]
  | true => simp [fails, failures]

inductive Passed (before after : Outbound Text) : OutboundEvent Text → Prop
  | put {text : Text}
      (grown : after.sent ++ after.queue =
        before.sent ++ before.queue ++ [text]) :
      Passed before after (.put text)
  | kept {event : OutboundEvent Text} (silent : event.text = none)
      (succeeds : event.fails = false)
      (same : after.sent ++ after.queue = before.sent ++ before.queue) :
      Passed before after event
  | lost {text : Text}
      (queue : before.queue = text :: after.queue)
      (sent : after.sent = before.sent) : Passed before after (.send false)

private theorem send_passed {succeeds : Bool}
    (taken : before.send succeeds = some after) :
    Passed before after (.send succeeds) := by
  unfold Outbound.send at taken
  split at taken
  · cases taken
  · cases taken
  · next text rest link queue =>
      obtain rfl := Option.some.inj taken
      cases succeeds with
      | true => exact .kept rfl rfl (by simp [queue])
      | false => exact .lost queue rfl
  · next text rest link queue =>
      obtain rfl := Option.some.inj taken
      cases succeeds with
      | true => exact .kept rfl rfl (by simp [queue])
      | false => exact .lost queue rfl

private theorem stepOutbound_passed
    (taken : stepOutbound before event = some after) :
    Passed before after event := by
  cases event with
  | put text =>
      obtain rfl := Option.some.inj taken
      exact .put (List.append_assoc _ _ _).symm
  | send succeeds => exact send_passed taken
  | _ =>
      simp only [stepOutbound] at taken
      split at taken
      · obtain rfl := Option.some.inj taken
        exact .kept rfl rfl rfl
      · cases taken

theorem Tallied.step (tallied : Tallied history before)
    (taken : stepOutbound before event = some after) :
    Tallied (history ++ [(before, event)]) after := by
  have ordered := tallied.ordered
  have counted := tallied.counted
  cases stepOutbound_passed taken with
  | @put text grown =>
      constructor
      · rw [texts_concat, grown]
        exact ordered.append_right _
      · have length : (after.sent ++ after.queue).length =
            (before.sent ++ before.queue).length + 1 := by
          rw [grown, List.length_append, List.length_singleton]
        have whole : (texts (history ++ [(before, .put text)])).length =
            (texts history).length + 1 := by
          rw [texts_concat]
          exact List.length_append
        rw [whole, failures_concat, length]
        simp only [OutboundEvent.fails, Bool.toNat_false]
        omega
  | kept silent succeeds same =>
      constructor
      · rw [texts_concat, same, silent]
        exact ordered.trans (List.sublist_append_left _ _)
      · rw [texts_concat, failures_concat, same, silent, succeeds]
        simpa using counted
  | @lost text queue sent =>
      have shorter : List.Sublist (after.sent ++ after.queue)
          (before.sent ++ before.queue) := by
        rw [queue, sent]
        exact (List.sublist_cons_self _ _).append_left _
      have length : (before.sent ++ before.queue).length =
          (after.sent ++ after.queue).length + 1 := by
        simp only [queue, sent, List.length_append, List.length_cons]
        rfl
      constructor
      · rw [texts_concat]
        exact (shorter.trans ordered).trans (List.sublist_append_left _ _)
      · have whole : (texts (history ++ [(before, .send false)])).length =
            (texts history).length := by
          rw [texts_concat]
          exact congrArg List.length (List.append_nil _)
        rw [whole, failures_concat]
        simp only [OutboundEvent.fails, Bool.toNat_true]
        omega

theorem tallied_run (run : (tunnelTask Text).Run history final) :
    Tallied history final := by
  apply Run.invariant _ _ run
  · exact ⟨.slnil, rfl⟩
  · intro past before event after _ tallied taken
    exact tallied.step taken

theorem Tallied.conserved (tallied : Tallied history final) :
    Conserved history final ↔ failures history = 0 := by
  have counted := tallied.counted
  constructor
  · intro conserved
    rw [Conserved] at conserved
    rw [conserved] at counted
    omega
  · intro none
    apply tallied.ordered.eq_of_length
    omega

/-- The tunnel task keeps every text, sends it at most once and in order if and
only if no send of a text has failed. -/
theorem conserved_iff (run : (tunnelTask Text).Run history final) :
    Conserved history final ↔ ∀ taken ∈ history, taken.2.fails = false := by
  rw [(tallied_run run).conserved, failures, List.countP_eq_zero]
  simp only [Bool.not_eq_true]

/-- Two texts over two connections, with no failed send. -/
theorem conserved_iff_reconnected :
    ∃ history final, (tunnelTask ℕ).Run history final ∧
      (Conserved history final ↔
        ∀ taken ∈ history, taken.2.fails = false) ∧
      final.sent = [1] ∧ final.queue = [2] := by
  obtain ⟨history, final, run, observed⟩ :=
    (tunnelTask ℕ).exists_run_of_trace
      [.put 1, .connect, .send true, .drained, .close, .put 2, .connect]
      (fun outcome => decide (outcome.2.sent = [1] ∧ outcome.2.queue = [2]))
      (by decide)
  exact ⟨history, final, run, conserved_iff run, of_decide_eq_true observed⟩

/-- The connection breaks before the first send, which loses its text: the next
connection carries the second one only. -/
theorem failed_send_loses_text :
    ∃ history final, (tunnelTask ℕ).Run history final ∧
      ¬ Conserved history final := by
  obtain ⟨history, final, run, observed⟩ :=
    (tunnelTask ℕ).exists_run_of_trace
      [.put 1, .put 2, .connect, .send false, .close, .connect, .send true]
      (fun outcome => decide (outcome.2.sent ++ outcome.2.queue = [2]) &&
        decide (texts outcome.1 = [1, 2]))
      (by decide)
  obtain ⟨left, put⟩ := (Bool.and_eq_true _ _).mp observed
  refine ⟨history, final, run, fun conserved => ?_⟩
  rw [Conserved, of_decide_eq_true left, of_decide_eq_true put] at conserved
  cases conserved

end Task

section Node

variable {app : AppState} {tunnel : TunnelId} {config : Config} {host : Host}
variable {awake : Bool} {peer : Peer}
variable {history : History LinkedState LinkedEvent}
variable {before after final : LinkedState} {event : LinkedEvent}

def LinkedState.outbound (state : LinkedState) : Outbound Message where
  queue := state.run.queue
  link := state.link
  sent := state.written.reverse.flatten

/-- What the event does in the tunnel task; the run loop's own work is none of
its business. -/
def LinkedEvent.outbound (config : Config) (state : LinkedState) :
    LinkedEvent → Option (OutboundEvent Message)
  | .run event => (queued config state.run event).map .put
  | .notice => none
  | .connect => some .connect
  | .write succeeds => some (.send succeeds)
  | .drained => some .drained
  | .close => some .close

def queuedTexts (config : Config)
    (history : History LinkedState LinkedEvent) : List Message :=
  history.filterMap fun taken =>
    (taken.2.outbound config taken.1).bind OutboundEvent.text

def LinkedEvent.fails : LinkedEvent → Bool
  | .write false => true
  | _ => false

/-- A connection that is up has its list of written frames. -/
def LinkedState.Logged (state : LinkedState) : Prop :=
  state.link ≠ .down → state.written ≠ []

private theorem write_outbound {msg : Message} {rest : List Message}
    (logged : before.written ≠ []) :
    (before.write msg rest true).outbound =
      { before.outbound with
        queue := rest, sent := before.outbound.sent ++ [msg] } := by
  cases logs : before.written with
  | nil => exact absurd logs logged
  | cons frames past => simp [LinkedState.write, LinkedState.outbound, logs]

private theorem write_logged {msg : Message} {rest : List Message}
    {succeeds : Bool} (logged : before.written ≠ []) :
    (before.write msg rest succeeds).written ≠ [] := by
  cases logs : before.written with
  | nil => exact absurd logs logged
  | cons frames past => cases succeeds <;> simp [LinkedState.write, logs]

inductive Refined (config : Config) (before after : LinkedState)
    (event : LinkedEvent) : Prop
  | step {task : OutboundEvent Message}
      (own : event.outbound config before = some task)
      (taken : stepOutbound before.outbound task = some after.outbound)
  | stutter (other : event.outbound config before = none)
      (same : after.outbound = before.outbound)

theorem refined_run {ran : RunState} {event : RunEvent}
    (moved : step app tunnel config host before.run event = some ran)
    (process : ∀ now, event ≠ .process now) (run : after.run = ran)
    (written : after.written = before.written)
    (link : after.link = before.link) :
    Refined config before after (.run event) := by
  have grown := step_queue moved process
  cases next : queued config before.run event with
  | none =>
      apply Refined.stutter
      · simp [LinkedEvent.outbound, next]
      · simp [LinkedState.outbound, run, written, link, grown, next]
  | some msg =>
      apply Refined.step
      · simp only [LinkedEvent.outbound, next]
        rfl
      · simp [stepOutbound, LinkedState.outbound, run, written, link, grown,
          next]

private theorem refined_sent {msg : Message} {rest : List Message}
    (logged : before.Logged) (link : before.link ≠ .down)
    (next : before.run.queue = msg :: rest) :
    Refined config before (before.write msg rest true) (.write true) := by
  apply Refined.step rfl
  rw [write_outbound (logged link)]
  cases up : before.link with
  | down => exact absurd up link
  | draining =>
      simp [stepOutbound, Outbound.send, LinkedState.outbound, up, next]
  | serving =>
      simp [stepOutbound, Outbound.send, LinkedState.outbound, up, next]

private theorem stepLinked_refined (logged : before.Logged)
    (taken : stepLinked app tunnel config host before event = some after) :
    after.Logged ∧ Refined config before after event := by
  cases linkedStep taken with
  | ran moved process _ _ =>
      exact ⟨logged, refined_run moved process rfl rfl rfl⟩
  | heard _ moved => exact ⟨logged, refined_run moved nofun rfl rfl rfl⟩
  | notice _ _ _ => exact ⟨logged, .stutter rfl rfl⟩
  | connect link =>
      refine ⟨fun _ => List.cons_ne_nil _ _, .step rfl ?_⟩
      simp [stepOutbound, LinkedState.outbound, LinkedState.setConnected, link]
  | sent link next =>
      exact ⟨fun _ => write_logged (logged link),
        refined_sent logged link next⟩
  | undrained link next =>
      refine ⟨fun _ => logged (by simp [link]), .step rfl ?_⟩
      simp [stepOutbound, Outbound.send, LinkedState.outbound,
        LinkedState.write, link, next]
  | broken link next =>
      refine ⟨fun down => absurd rfl down, .step rfl ?_⟩
      simp [stepOutbound, Outbound.send, LinkedState.outbound,
        LinkedState.write, LinkedState.setConnected, link, next]
  | drained link empty =>
      refine ⟨fun _ => logged (by simp [link]), .step rfl ?_⟩
      simp [stepOutbound, LinkedState.outbound, link, empty]
  | closed link =>
      refine ⟨fun down => absurd rfl down, .step rfl ?_⟩
      simp [stepOutbound, LinkedState.outbound, LinkedState.setConnected, link]

private theorem queuedTexts_concat : queuedTexts config
    (history ++ [(before, event)]) = queuedTexts config history ++
      ((event.outbound config before).bind OutboundEvent.text).toList := by
  rw [queuedTexts, List.filterMap_append]
  cases next : (event.outbound config before).bind OutboundEvent.text with
  | none => simp [queuedTexts, next]
  | some msg => simp [queuedTexts, next]

def failedWrites (history : History LinkedState LinkedEvent) : ℕ :=
  history.countP fun taken => taken.2.fails

theorem failedWrites_concat : failedWrites (history ++ [(before, event)]) =
    failedWrites history +
      ((event.outbound config before).any OutboundEvent.fails).toNat := by
  have same : event.fails =
      (event.outbound config before).any OutboundEvent.fails := by
    cases event with
    | run event =>
        rw [LinkedEvent.outbound, Option.any_map]
        cases queued config before.run event with
        | none => rfl
        | some msg => rfl
    | write succeeds => cases succeeds <;> rfl
    | _ => rfl
  rw [failedWrites, List.countP_append, ← same]
  cases fails : event.fails with
  | false => simp [fails, failedWrites]
  | true => simp [fails, failedWrites]

/-- Every run of the node is a run of its tunnel task over the messages that
the node queues. -/
theorem linkedNode_refines
    (run : (linkedNode app tunnel config host awake peer).Run history final) :
    final.Logged ∧ ∃ past, (tunnelTask Message).Run past final.outbound ∧
      texts past = queuedTexts config history ∧
      failures past = failedWrites history := by
  apply Run.invariant _ _ run
  · exact ⟨fun down => absurd rfl down, [], .start, rfl, rfl⟩
  · intro history before event after _ refined taken
    obtain ⟨logged, past, ran, put, failed⟩ := refined
    obtain ⟨logged, step⟩ := stepLinked_refined logged taken
    refine ⟨logged, ?_⟩
    rw [queuedTexts_concat, @failedWrites_concat config]
    cases step with
    | @step task own taken =>
        refine ⟨_, ran.next taken, ?_, ?_⟩
        · rw [texts_concat, put, own]
          rfl
        · rw [failures_concat, failed, own]
          rfl
    | stutter other same =>
        refine ⟨past, same ▸ ran, ?_, ?_⟩
        · rw [put, other]
          exact (List.append_nil _).symm
        · rw [failed, other]
          rfl

/-- The node's frames, over all its connections, are the messages it queued and
in their order, less those still queued, while no write has failed. -/
theorem written_conserved_iff
    (run : (linkedNode app tunnel config host awake peer).Run history final) :
    final.written.reverse.flatten ++ final.run.queue =
      queuedTexts config history ↔ failedWrites history = 0 := by
  obtain ⟨-, past, ran, put, failed⟩ := linkedNode_refines run
  rw [← put, ← failed]
  exact (tallied_run ran).conserved

end Node

end JwSwarm.LinuxNode
