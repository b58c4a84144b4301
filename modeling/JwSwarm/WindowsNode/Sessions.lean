import JwSwarm.Data.Thinned
import JwSwarm.WindowsNode.Connections

namespace JwSwarm.WindowsNode

open Data Proto Transition Machine
open LinuxNode (frameId)

/-! What the connections amount to: messages are posted, and the first of those
pending is written, or lost with its connection. -/

def SendPump.inflight : SendPump → List Message
  | .sending text _ => [text]
  | _ => []

def RunPhase.inflight : RunPhase → List Message
  | .pumping session => session.sender.inflight
  | _ => []

/-- None when nothing is written any more. -/
def SendPump.left : SendPump → Option (List Notice)
  | .ended => none
  | _ => some []

/-- What the handler has still to send before the pumps start. -/
def RunPhase.left : RunPhase → Option (List Notice)
  | .greeting left => some left
  | .pumping session => session.sender.left
  | _ => none

structure Deliveries where
  connected : Bool
  closed : Bool
  posted : List Message
  pending : List Message
  written : List (List Message)
  left : Option (List Notice)
  missed : List Notice
  abandoned : List Message

def TunnelClient.deliveries (state : TunnelClient) : Deliveries where
  connected := state.connected
  closed := state.closed
  posted := state.posted
  pending := state.phase.inflight ++ state.outbound
  written := state.written
  left := state.phase.left
  missed := state.missed
  abandoned := state.abandoned

namespace Deliveries

def post (state : Deliveries) (text : Message) : Deliveries :=
  { state with
    posted := state.posted ++ [text]
    pending := state.pending ++ [text] }

/-- One step, with whether it loses a text, and the frame about a request that
it is to post. -/
inductive Step (config : NodeConfig) (before : Deliveries) :
    Bool → Option Message → Deliveries → Prop
  | stay : Step config before false none before
  | drop (idle : before.left = none) :
      Step config before false none { before with connected := false }
  | start (idle : before.left = none) :
      Step config before false none { before with
        connected := true
        written := [] :: before.written
        left := some greetings
        missed := [] }
  | greet (notice : Notice) (left : List Notice) (readings : Readings)
      (next : before.left = some (notice :: left))
      (opened : before.closed = false) :
      Step config before false none
        { before.post (notice.message config readings) with
          left := some left }
  | miss (notice : Notice) (left : List Notice)
      (next : before.left = some (notice :: left)) :
      Step config before false none { before with
        left := some left, missed := before.missed ++ [notice] }
  | notify (notice : OtherNotice) (readings : Readings)
      (opened : before.closed = false) :
      Step config before false none
        (before.post (notice.1.message config readings))
  | reply (frame : Message) (named : (frameId frame).isSome = true)
      (opened : before.closed = false) :
      Step config before false (some frame) (before.post frame)
  | unheard (frame : Message) : Step config before false (some frame) before
  | write (text : Message) (rest latest : List Message)
      (earlier : List (List Message)) (pending : before.pending = text :: rest)
      (written : before.written = latest :: earlier) :
      Step config before false none { before with
        pending := rest, written := (latest ++ [text]) :: earlier }
  | lose (text : Message) (rest : List Message)
      (pending : before.pending = text :: rest) (up : before.left = some []) :
      Step config before true none { before with pending := rest, left := none }
  | finish (up : before.left = some []) :
      Step config before false none { before with left := none }
  | dispose (idle : before.left = none) :
      Step config before false none { before with
        connected := false
        closed := true
        pending := []
        abandoned := before.abandoned ++ before.pending }
  | renew (idle : before.left = none) (closed : before.closed = true) :
      Step config before false none { before with
        connected := false, closed := false, pending := [], missed := [] }

theorem Step.of_eq {config : NodeConfig} {before after : Deliveries}
    (same : after = before) : before.Step config false none after := by
  rw [same]
  exact .stay

end Deliveries

variable {config : NodeConfig} {before after state : TunnelClient}
variable {session : Session} {event : TunnelEvent}

theorem isRegister_message {notice : Notice} {readings : Readings}
    (other : notice ≠ .register) :
    (notice.message config readings).isRegister = false := by
  cases notice with
  | register => exact absurd rfl other
  | _ => rfl

private theorem isRegister_frame {frame : Message}
    (named : (frameId frame).isSome = true) : frame.isRegister = false := by
  cases frame with
  | register register => cases named
  | _ => rfl

namespace TunnelClient

theorem deliveries_pumps {next : Session}
    (phase : state.phase = .pumping session)
    (inflight : next.sender.inflight = session.sender.inflight)
    (left : next.sender.left = session.sender.left) :
    (state.pumps next).deliveries = state.deliveries := by
  simp only [deliveries, pumps, RunPhase.inflight, RunPhase.left, phase,
    inflight, left]

private theorem deliveries_rest (inflight : state.phase.inflight = [])
    (left : state.phase.left = none) :
    state.rest.deliveries = { state.deliveries with connected := false } := by
  cases cancelled : state.cancelled with
  | true =>
      simp only [rest, deliveries, cancelled, if_true, inflight, left]
      rfl
  | false =>
      simp only [rest, deliveries, cancelled, Bool.false_eq_true, if_false,
        inflight, left]
      rfl

theorem rest_delivers (inflight : state.phase.inflight = [])
    (left : state.phase.left = none) :
    state.deliveries.Step config false none state.rest.deliveries := by
  rw [deliveries_rest inflight left]
  exact .drop left

theorem deliveries_send (text : Message) :
    (state.send text).deliveries = state.deliveries.post text := by
  simp only [deliveries, send, Deliveries.post, List.append_assoc]

private theorem log_delivers {text : Message}
    (logged : before.phase.left.isSome = true → before.written ≠ [])
    (phase : before.phase = .pumping session)
    (sender : session.sender = .sending text true) :
    before.deliveries.Step config false none
      ((before.log text).pumps
        { session with sender := .reading }).deliveries := by
  have up : before.phase.left = some [] := by
    simp only [RunPhase.left, phase, sender]
    rfl
  obtain ⟨latest, earlier, written⟩ := List.exists_cons_of_ne_nil
    (logged (by rw [up]; rfl))
  have pending : before.deliveries.pending = text :: before.outbound := by
    simp only [deliveries, RunPhase.inflight, phase, sender]
    rfl
  have same : ((before.log text).pumps
      { session with sender := .reading }).deliveries =
      { before.deliveries with
        pending := before.outbound
        written := (latest ++ [text]) :: earlier } := by
    simp only [deliveries, pumps, log, written, RunPhase.inflight,
      RunPhase.left, phase, sender]
    rfl
  rw [same]
  exact .write text before.outbound latest earlier pending written

private theorem lose_delivers {text : Message} {live : Bool}
    (phase : before.phase = .pumping session)
    (sender : session.sender = .sending text live) :
    before.deliveries.Step config true none
      (before.pumps { session with sender := .ended }).deliveries := by
  have pending : before.deliveries.pending = text :: before.outbound := by
    simp only [deliveries, RunPhase.inflight, phase, sender]
    rfl
  have up : before.deliveries.left = some [] := by
    simp only [deliveries, RunPhase.left, phase, sender]
    rfl
  exact .lose text before.outbound pending up

private theorem stop_delivers (phase : before.phase = .pumping session)
    (sender : session.sender = .waiting) :
    before.deliveries.Step config false none
      (before.pumps { session with sender := .ended }).deliveries := by
  have up : before.deliveries.left = some [] := by
    simp only [deliveries, RunPhase.left, phase, sender]
    rfl
  have same :
      (before.pumps { session with sender := .ended }).deliveries =
        { before.deliveries with left := none } := by
    simp only [deliveries, pumps, RunPhase.inflight, phase, sender]
    rfl
  rw [same]
  exact .finish up

private theorem disconnect_delivers {backoffMs : ℕ}
    (phase : before.phase = .pumping session)
    (sender : session.sender = .ended) :
    before.deliveries.Step config false none
      { before with backoffMs }.rest.deliveries := by
  have left : before.phase.left = none := by
    simp only [RunPhase.left, phase, sender]
    rfl
  have inflight : before.phase.inflight = [] := by
    simp only [RunPhase.inflight, phase, sender]
    rfl
  exact @rest_delivers _ { before with backoffMs } inflight left

private theorem stepSession_delivers
    (logged : before.phase.left.isSome = true → before.written ≠ [])
    (phase : before.phase = .pumping session)
    (taken : before.stepSession session event = some after) :
    before.deliveries.Step config event.fails event.frame after.deliveries := by
  cases event with
  | read =>
      simp only [stepSession] at taken
      split at taken
      · next sender cancelled outbound =>
          obtain rfl := Option.some.inj taken
          exact .of_eq (deliveries_pumps phase (by rw [sender]; rfl)
            (by rw [sender]; rfl))
      · cases taken
  | take =>
      simp only [stepSession] at taken
      split at taken
      · next text rest sender outbound =>
          obtain rfl := Option.some.inj taken
          apply Deliveries.Step.of_eq
          simp only [deliveries, RunPhase.inflight, RunPhase.left, phase,
            sender, outbound]
          rfl
      · next sender outbound =>
          obtain rfl := Option.some.inj taken
          exact .of_eq (deliveries_pumps phase (by rw [sender]; rfl)
            (by rw [sender]; rfl))
      · cases taken
  | write succeeds =>
      cases succeeds with
      | true =>
          simp only [stepSession] at taken
          split at taken
          · next text sender =>
              obtain rfl := Option.some.inj taken
              exact log_delivers logged phase sender
          · cases taken
      | false =>
          simp only [stepSession] at taken
          split at taken
          · next text live sender =>
              obtain rfl := Option.some.inj taken
              exact lose_delivers phase sender
          · cases taken
  | interrupt =>
      simp only [stepSession] at taken
      split at taken
      · next sender cancelled =>
          obtain rfl := Option.some.inj taken
          exact stop_delivers phase sender
      · cases taken
  | receiveEnd failed =>
      simp only [stepSession] at taken
      split at taken
      · obtain rfl := Option.some.inj taken
        exact .of_eq (deliveries_pumps phase rfl rfl)
      · cases taken
  | kick =>
      obtain rfl := Option.some.inj taken
      exact .of_eq (deliveries_pumps phase rfl rfl)
  | complete bySender =>
      simp only [stepSession] at taken
      split at taken
      · obtain rfl := Option.some.inj taken
        exact .of_eq (deliveries_pumps phase rfl rfl)
      · obtain rfl := Option.some.inj taken
        exact .of_eq (deliveries_pumps phase rfl rfl)
      · cases taken
  | disconnect =>
      simp only [stepSession] at taken
      split at taken
      · next failed receiver completed sender ended =>
          obtain rfl := Option.some.inj taken
          exact disconnect_delivers phase sender
      · cases taken
  | _ => cases taken

theorem reaches_open {stale : Bool} (found : state.reaches stale = true) :
    state.closed = false :=
  Bool.not_eq_true' _ ▸ ((Bool.and_eq_true _ _).mp found).2

theorem post_cases (stale : Bool) (text : Message) :
    state.post stale text = state ∨
      state.closed = false ∧ state.post stale text = state.send text := by
  unfold post
  split
  · next found => exact .inr ⟨reaches_open found, rfl⟩
  · exact .inl rfl

private theorem connect_delivers (phase : before.phase = .connecting)
    (succeeds : Bool) :
    before.deliveries.Step config false none
      (if succeeds then { before with
        connected := true
        phase := .greeting greetings
        written := [] :: before.written
        missed := [] } else before.rest).deliveries := by
  have inflight : before.phase.inflight = [] := by rw [phase]; rfl
  have left : before.phase.left = none := by rw [phase]; rfl
  cases succeeds with
  | true =>
      have same : TunnelClient.deliveries { before with
          connected := true
          phase := .greeting greetings
          written := [] :: before.written
          missed := [] } =
          { before.deliveries with
            connected := true
            written := [] :: before.written
            left := some greetings
            missed := [] } := by
        simp only [deliveries, inflight]
        rfl
      exact same ▸ .start left
  | false => exact rest_delivers inflight left

private theorem greet_delivers {notice : Notice} {left : List Notice}
    {readings : Readings}
    (connected : before.phase.left.isSome = true → before.connected = true)
    (phase : before.phase = .greeting (notice :: left)) :
    before.deliveries.Step config false none
      (greet config before notice left readings).deliveries := by
  have next : before.phase.left = some (notice :: left) := by
    rw [phase]
    rfl
  have inflight : before.phase.inflight = [] := by rw [phase]; rfl
  have heard : (notice.guarded && !before.connected) = false := by
    rw [connected (by rw [next]; rfl)]
    exact Bool.and_false _
  simp only [greet, heard, Bool.false_eq_true, if_false]
  split
  · next found =>
      have opened : before.closed = false := reaches_open found
      have same : TunnelClient.deliveries { before with
          phase := .greeting left } =
          { before.deliveries with left := some left } := by
        simp only [deliveries, inflight]
        rfl
      rw [deliveries_send, same]
      exact .greet notice left readings next opened
  · have same : TunnelClient.deliveries { before with
          phase := .greeting left
          missed := before.missed ++ [notice] } =
          { before.deliveries with
            left := some left
            missed := before.missed ++ [notice] } := by
      simp only [deliveries, inflight]
      rfl
    rw [same]
    exact .miss notice left next

private theorem deliveries_cancel :
    before.cancel.deliveries = before.deliveries := by
  unfold cancel
  split
  · next session phase =>
      simp only [deliveries, phase]
      rfl
  · rfl

private theorem notify_delivers {notice : OtherNotice} {readings : Readings}
    {noticing : List OtherNotice} :
    before.deliveries.Step config false none
      ({ before with noticing }.post readings.stale
        (notice.1.message config readings)).deliveries := by
  rcases post_cases readings.stale (notice.1.message config readings) with
    same | ⟨opened, same⟩
  · rw [same]
    exact .stay
  · rw [same, deliveries_send]
    exact .notify notice readings opened

private theorem reply_delivers {frame : Message} {stale : Bool}
    (named : (frameId frame).isSome = true) :
    before.deliveries.Step config false (some frame)
      (before.post stale frame).deliveries := by
  rcases @post_cases before stale frame with same | ⟨opened, same⟩
  · rw [same]
    exact .unheard frame
  · rw [same, deliveries_send]
    exact .reply frame named opened

private theorem dispose_delivers (phase : before.phase = .stopped) :
    before.deliveries.Step config false none before.dispose.deliveries := by
  have left : before.deliveries.left = none := by
    simp only [deliveries, phase]
    rfl
  have same : before.dispose.deliveries =
      { before.deliveries with
        connected := false
        closed := true
        pending := []
        abandoned := before.abandoned ++ before.deliveries.pending } := by
    simp only [deliveries, dispose, phase]
    rfl
  rw [same]
  exact .dispose left

private theorem renew_delivers (phase : before.phase = .stopped)
    (closed : before.closed = true) :
    before.deliveries.Step config false none before.renew.deliveries := by
  have left : before.deliveries.left = none := by
    simp only [deliveries, phase]
    rfl
  have same : before.renew.deliveries =
      { before.deliveries with
        connected := false, closed := false, pending := [], missed := [] } := by
    simp only [deliveries, phase]
    rfl
  rw [same]
  exact .renew left closed

theorem step_delivers
    (connected : before.phase.left.isSome = true → before.connected = true)
    (logged : before.phase.left.isSome = true → before.written ≠ [])
    (taken : step config before event = some after) :
    before.deliveries.Step config event.fails event.frame after.deliveries := by
  unfold step at taken
  split at taken
  case h_1 succeeds =>
    split at taken
    · next phase =>
        obtain rfl := Option.some.inj taken
        exact connect_delivers phase succeeds
    · cases taken
  case h_2 readings =>
    split at taken
    · next notice left phase =>
        split at taken
        · cases taken
        · obtain rfl := Option.some.inj taken
          exact greet_delivers connected phase
    · cases taken
  case h_3 =>
    split at taken
    · next phase =>
        obtain rfl := Option.some.inj taken
        apply Deliveries.Step.of_eq
        simp only [deliveries, pumps, phase]
        rfl
    · cases taken
  case h_4 notice =>
    split at taken
    · obtain rfl := Option.some.inj taken
      exact .stay
    · cases taken
  case h_5 index readings =>
    obtain ⟨-, taken⟩ := Option.ite_none_left_eq_some.mp taken
    obtain ⟨notice, found, taken⟩ := Option.bind_eq_some_iff.mp taken
    obtain rfl := Option.some.inj taken
    exact notify_delivers
  case h_6 frame stale =>
    obtain ⟨heard, taken⟩ := Option.ite_none_left_eq_some.mp taken
    obtain rfl := Option.some.inj taken
    apply reply_delivers
    cases named : frameId frame with
    | none => simp [named] at heard
    | some id => rfl
  case h_7 =>
    split at taken
    · obtain rfl := Option.some.inj taken
      exact .stay
    · cases taken
  case h_8 =>
    split at taken
    · cases taken
    · obtain rfl := Option.some.inj taken
      exact .of_eq deliveries_cancel
  case h_9 =>
    split at taken
    · next phase closed =>
        obtain rfl := Option.some.inj taken
        exact dispose_delivers phase
    · cases taken
  case h_10 =>
    split at taken
    · next phase closed =>
        obtain rfl := Option.some.inj taken
        exact renew_delivers phase closed
    · cases taken
  case h_11 =>
    split at taken
    · next phase =>
        obtain rfl := Option.some.inj taken
        apply Deliveries.Step.of_eq
        split
        · simp only [deliveries, phase]
          rfl
        · simp only [deliveries, phase]
          rfl
    · cases taken
  case h_12 =>
    split at taken
    · next session phase => exact stepSession_delivers logged phase taken
    · cases taken

end TunnelClient

/-- Whatever was posted has been written, in order, or is pending, up to what
was abandoned and one text for each connection that nothing is written to any
more. -/
structure Delivered (state : Deliveries) (lost : ℕ) : Prop where
  connected : state.left.isSome = true → state.connected = true
  counted : lost + state.left.isSome.toNat ≤ state.written.length
  emptied : state.closed = true → state.pending = []
  thinned : Thinned (state.written.reverse.flatten ++ state.pending)
    state.posted (lost + state.abandoned.length)

namespace Delivered

variable {earlier later : Deliveries} {lost : ℕ} {loses : Bool}
variable {said : Option Message}

theorem logged (delivered : Delivered earlier lost)
    (up : earlier.left.isSome = true) : earlier.written ≠ [] := by
  have counted := delivered.counted
  rw [up] at counted
  apply List.ne_nil_of_length_pos
  exact Nat.lt_of_lt_of_le (Nat.succ_pos lost) counted

theorem post (delivered : Delivered earlier lost) (text : Message)
    (opened : earlier.closed = false) :
    Delivered (earlier.post text) lost := by
  constructor
  · exact delivered.connected
  · exact delivered.counted
  · exact fun closed => absurd (opened.symm.trans closed) Bool.false_ne_true
  · have thinned := delivered.thinned.concat text
    rw [List.append_assoc] at thinned
    exact thinned

theorem step (delivered : Delivered earlier lost)
    (taken : earlier.Step config loses said later) :
    Delivered later (lost + loses.toNat) := by
  have counted := delivered.counted
  cases taken with
  | stay => exact delivered
  | drop idle =>
      constructor
      · intro up
        rw [idle] at up
        cases up
      · exact counted
      · exact delivered.emptied
      · exact delivered.thinned
  | start idle =>
      constructor
      · exact fun _ => rfl
      · rw [idle] at counted
        exact Nat.succ_le_succ counted
      · exact delivered.emptied
      · have thinned := delivered.thinned
        simpa using thinned
  | greet notice left readings next opened =>
      have posted := delivered.post (notice.message config readings) opened
      have up : earlier.left.isSome = true := by rw [next]; rfl
      constructor
      · exact fun _ => delivered.connected up
      · rw [up] at counted
        exact counted
      · exact posted.emptied
      · exact posted.thinned
  | miss notice left next =>
      have up : earlier.left.isSome = true := by rw [next]; rfl
      constructor
      · exact fun _ => delivered.connected up
      · rw [up] at counted
        exact counted
      · exact delivered.emptied
      · exact delivered.thinned
  | notify notice readings opened => exact delivered.post _ opened
  | reply frame named opened => exact delivered.post frame opened
  | unheard frame => exact delivered
  | write text rest latest older pending written =>
      constructor
      · exact delivered.connected
      · rw [written] at counted
        exact counted
      · intro closed
        rw [delivered.emptied closed] at pending
        cases pending
      · have thinned := delivered.thinned
        rw [written, pending] at thinned
        simpa using thinned
  | lose text rest pending up =>
      constructor
      · exact fun alive => by cases alive
      · rw [up] at counted
        exact counted
      · intro closed
        rw [delivered.emptied closed] at pending
        cases pending
      · have thinned := delivered.thinned
        rw [pending] at thinned
        have shorter := thinned.lose
        rw [Nat.add_right_comm] at shorter
        exact shorter
  | finish up =>
      constructor
      · exact fun alive => by cases alive
      · exact Nat.le_trans (Nat.le_add_right _ _) counted
      · exact delivered.emptied
      · exact delivered.thinned
  | dispose idle =>
      constructor
      · exact fun up => by rw [idle] at up; cases up
      · exact counted
      · exact fun _ => rfl
      · have thinned := delivered.thinned.loseAll
        rw [Nat.add_assoc, ← List.length_append] at thinned
        rw [List.append_nil]
        exact thinned
  | renew idle closed =>
      have thinned := delivered.thinned
      rw [delivered.emptied closed] at thinned
      constructor
      · exact fun up => by rw [idle] at up; cases up
      · exact counted
      · exact fun _ => rfl
      · exact thinned

end Delivered

def failedSends (history : History TunnelClient TunnelEvent) : ℕ :=
  history.countP fun taken => taken.2.fails

def TunnelClient.live (state : TunnelClient) : Bool :=
  state.phase.left.isSome

variable {history : History TunnelClient TunnelEvent} {final : TunnelClient}

private theorem failedSends_concat :
    failedSends (history ++ [(before, event)]) =
      failedSends history + event.fails.toNat := by
  rw [failedSends, List.countP_append]
  cases fails : event.fails with
  | false => simp [fails, failedSends]
  | true => simp [fails, failedSends]

theorem Delivered.taken {lost : ℕ}
    (delivered : Delivered before.deliveries lost)
    (taken : TunnelClient.step config before event = some after) :
    Delivered after.deliveries (lost + event.fails.toNat) :=
  delivered.step
    (TunnelClient.step_delivers delivered.connected delivered.logged taken)

theorem delivered_init : Delivered (TunnelClient.deliveries {}) 0 := by
  constructor
  · exact fun up => by cases up
  · exact Nat.le_refl 0
  · exact fun _ => rfl
  · exact .refl []

theorem delivered_run (run : (tunnelClient config).Run history final) :
    Delivered final.deliveries (failedSends history) := by
  apply Run.invariant _ _ run
  · exact delivered_init
  · intro past before event after _ delivered taken
    rw [failedSends_concat]
    exact delivered.taken taken

theorem Deliveries.Step.opens {earlier later : Deliveries} {loses : Bool}
    {said : Option Message} (taken : earlier.Step config loses said later) :
    earlier.written.length ≤ later.written.length ∧
      (later.left.isSome = true → earlier.left.isSome = true ∨
        earlier.written.length < later.written.length) := by
  cases taken with
  | start idle => exact ⟨Nat.le_succ _, fun _ => .inr (Nat.lt_succ_self _)⟩
  | greet notice left readings next opened =>
      exact ⟨le_rfl, fun _ => .inl (by rw [next]; rfl)⟩
  | miss notice left next =>
      exact ⟨le_rfl, fun _ => .inl (by rw [next]; rfl)⟩
  | write text rest latest older pending written =>
      refine ⟨?_, .inl⟩
      rw [written]
      exact le_rfl
  | lose text rest pending up => exact ⟨le_rfl, fun alive => by cases alive⟩
  | finish up => exact ⟨le_rfl, fun alive => by cases alive⟩
  | _ => exact ⟨le_rfl, .inl⟩

theorem Deliveries.Step.ends {earlier later : Deliveries}
    {said : Option Message} (taken : earlier.Step config true said later) :
    later.left = none := by
  cases taken with
  | lose text rest pending up => rfl

private theorem live_of_write {outcome : Bool}
    (taken : TunnelClient.step config before (.write outcome) = some after) :
    before.live = true := by
  simp only [TunnelClient.step] at taken
  split at taken
  · next session phase =>
      unfold TunnelClient.live
      rw [phase]
      cases sender : session.sender with
      | ended =>
          cases outcome with
          | true => simp [TunnelClient.stepSession, sender] at taken
          | false => simp [TunnelClient.stepSession, sender] at taken
      | _ =>
          simp only [RunPhase.left, sender]
          rfl
  · cases taken

private theorem live_of_write_mem {outcome : Bool} {sending : TunnelClient}
    (run : (tunnelClient config).Run history final)
    (sent : (sending, .write outcome) ∈ history) : sending.live = true := by
  induction run with
  | start => cases sent
  | next run taken ih =>
      rcases List.mem_append.mp sent with earlier | last
      · exact ih earlier
      · obtain ⟨rfl, rfl⟩ := Prod.mk.inj (List.mem_singleton.mp last)
        exact @live_of_write config _ _ _ taken

/-- As long as nothing is written again after a failing send, no connection need
have come up; then one has. -/
theorem opened_since (run : (tunnelClient config).Run history final) :
    ∀ past broken between,
      history = past ++ (broken, .write false) :: between →
      broken.written.length ≤ final.written.length ∧
        (final.live = true →
          broken.written.length < final.written.length) := by
  induction run with
  | start =>
      intro past broken between whole
      simp at whole
  | @next history before after event run taken ih =>
      intro past broken between whole
      have delivered := delivered_run run
      have moved := TunnelClient.step_delivers delivered.connected
        delivered.logged taken
      obtain ⟨grown, alive⟩ := moved.opens
      rcases List.eq_nil_or_concat between with rfl | ⟨earlier, last, rfl⟩
      · obtain ⟨-, same⟩ := List.append_inj' whole rfl
        obtain ⟨rfl, rfl⟩ := Prod.mk.inj (List.singleton_inj.mp same)
        have closed : after.phase.left = none := moved.ends
        refine ⟨grown, fun live => ?_⟩
        rw [TunnelClient.live, closed] at live
        cases live
      · rw [List.concat_eq_append, ← List.cons_append, ← List.append_assoc]
          at whole
        obtain ⟨rfl, -⟩ := List.append_inj' whole rfl
        obtain ⟨least, more⟩ := ih past broken earlier rfl
        refine ⟨least.trans grown, fun live => ?_⟩
        rcases alive live with before | later
        · exact (more before).trans_le grown
        · exact least.trans_lt later

/-- What was queued has been written on the connections, once and in the order
in which it was queued, or is still under way, save the text of each send that
failed and what was left in a channel when its client was stopped. A send that
fails is the last of its connection. -/
theorem written_in_order (run : (tunnelClient config).Run history final) :
    Thinned (final.written.reverse.flatten ++
        (final.phase.inflight ++ final.outbound))
      final.posted (failedSends history + final.abandoned.length) ∧
    failedSends history + final.live.toNat ≤ final.written.length ∧
    ∀ past broken between later outcome rest,
      history = past ++ (broken, .write false) :: between ++
        (later, .write outcome) :: rest →
      broken.written.length < later.written.length := by
  refine ⟨(delivered_run run).thinned, (delivered_run run).counted, ?_⟩
  intro past broken between later outcome rest whole
  have inside : past ++ (broken, .write false) :: between ++
      [(later, .write outcome)] <+: history :=
    ⟨rest, by simp [whole]⟩
  apply (opened_since (run.of_prefix inside) past broken between rfl).2
  exact @live_of_write_mem config _ _ outcome _ run
    (inside.subset (by simp))

def exampleConfig : NodeConfig where
  nodeId := "node"
  hostname := "host"
  limits := { gpuPowerPct := 80, memoryLimitMb := 16000 }
  vendor := .nvidia
  gpuName := "NVIDIA GPU"

def idleReadings : Readings where
  selectedModels := []
  metrics := ⟨0, 0, 0, 0, 0, 0⟩
  scheduleState := .awake
  readyModels := []

/-- A connection up to the first turn of its pumps. -/
def connected : List TunnelEvent :=
  [.connect true, .greet idleReadings, .greet idleReadings,
    .greet idleReadings, .greet idleReadings, .pump]

def writes (count : ℕ) : List TunnelEvent :=
  (List.replicate count [.take, .write true]).flatten

def breaks : List TunnelEvent :=
  [.take, .write false, .complete true, .receiveEnd true, .disconnect, .wake]

/-- The first connection breaks while the heartbeat is sent. -/
def brokenEvents : List TunnelEvent :=
  connected ++ .read :: writes 2 ++ breaks ++ connected ++ .read :: writes 1

/-- Then the client is stopped, with a reply that comes too late, and another
one started. -/
private def stoppedEvents : List TunnelEvent :=
  brokenEvents ++
    [.stop, .reply (.done ⟨"r", ⟨0, 0, 0⟩⟩) false, .cancel, .take,
      .write false, .complete true, .receiveEnd true, .disconnect, .dispose,
      .start] ++ connected ++ .read :: writes 4

theorem written_in_order_stopped :
    ∃ history final, (tunnelClient exampleConfig).Run history final ∧
      failedSends history = 2 ∧ final.abandoned.length = 3 ∧
      final.written.length = 3 ∧
      Thinned (final.written.reverse.flatten ++
          (final.phase.inflight ++ final.outbound))
        final.posted (failedSends history + final.abandoned.length) := by
  obtain ⟨history, final, run, observed⟩ :=
    (tunnelClient exampleConfig).exists_run_of_trace stoppedEvents
      (fun outcome => decide (failedSends outcome.1 = 2 ∧
        outcome.2.abandoned.length = 3 ∧ outcome.2.written.length = 3))
      (by decide +kernel)
  obtain ⟨two, left, three⟩ := of_decide_eq_true observed
  exact ⟨history, final, run, two, left, three, (written_in_order run).1⟩

def hearRegister (known : Option Register) : Message → Option Register
  | .register register => some register
  | _ => known

def introduced (frames : List Message) : Option Register :=
  frames.foldl hearRegister none

def Deliveries.current (state : Deliveries) : List Message :=
  state.written.head?.getD [] ++ state.pending

/-- What has been sent of the greetings is on its way on this connection, the
`Register` with nothing newer to follow, and the request for the catalog after
some `Register`. -/
structure Told (state : Deliveries) (left : List Notice) : Prop where
  ordered : left <:+ greetings
  registered : .register ∉ left →
    ∃ register, introduced state.current = some register ∧
      introduced state.posted = some register
  asked : .catalogRequest ∉ left →
    ∃ earlier later, state.current = earlier ++ .catalogRequest :: later ∧
      (introduced earlier).isSome = true

theorem Delivered.current_posted {state : Deliveries} {lost : ℕ}
    {text : Message} (delivered : Delivered state lost)
    (carried : text ∈ state.current) : text ∈ state.posted := by
  apply delivered.thinned.ordered.subset
  unfold Deliveries.current at carried
  cases written : state.written with
  | nil =>
      rw [written] at carried
      exact carried
  | cons latest earlier =>
      rw [written] at carried
      rcases List.mem_append.mp carried with wrote | pending
      · have inside : text ∈ latest := wrote
        simp [inside]
      · exact List.mem_append_right _ pending

structure Greeted (config : NodeConfig) (state : Deliveries) : Prop where
  own : ∀ register, .register register ∈ state.posted →
    ∃ models, register = config.register models
  told : state.missed = [] → ∀ left, state.left = some left → Told state left

section Introductions

variable {frames : List Message} {text : Message} {known : Option Register}

theorem introduced_concat :
    introduced (frames ++ [text]) = hearRegister (introduced frames) text := by
  rw [introduced, List.foldl_append]
  rfl

private theorem hearRegister_other (other : text.isRegister = false) :
    hearRegister known text = known := by
  cases text with
  | register register => cases other
  | _ => rfl

theorem introduced_other (other : text.isRegister = false) :
    introduced (frames ++ [text]) = introduced frames := by
  rw [introduced_concat, hearRegister_other other]

theorem introduced_mem {register : Register}
    (known : introduced frames = some register) :
    .register register ∈ frames := by
  induction frames using List.reverseRecOn with
  | nil => cases known
  | append_singleton frames text ih =>
      rw [introduced_concat] at known
      cases text with
      | register latest =>
          obtain rfl := Option.some.inj known
          simp
      | _ => exact List.mem_append_left _ (ih known)

end Introductions

namespace Told

variable {earlier later : Deliveries} {left : List Notice} {text : Message}

theorem congr (told : Told earlier left)
    (current : later.current = earlier.current)
    (posted : later.posted = earlier.posted) : Told later left := by
  constructor
  · exact told.ordered
  · rw [current, posted]
    exact told.registered
  · rw [current]
    exact told.asked

theorem current_post :
    (earlier.post text).current = earlier.current ++ [text] :=
  (List.append_assoc _ _ _).symm

theorem post (told : Told earlier left) (other : text.isRegister = false) :
    Told (earlier.post text) left := by
  constructor
  · exact told.ordered
  · intro sent
    obtain ⟨register, current, posted⟩ := told.registered sent
    refine ⟨register, ?_, ?_⟩
    · rw [current_post, introduced_other other, current]
    · exact (introduced_other other).trans posted
  · intro sent
    obtain ⟨before, after, whole, known⟩ := told.asked sent
    refine ⟨before, after ++ [text], ?_, known⟩
    rw [current_post, whole, List.append_assoc]
    rfl

/-- The catalog is asked for after the `Register`, and that goes first. -/
theorem ordered_cases {notice : Notice}
    (ordered : notice :: left <:+ greetings) :
    (.catalogRequest ∈ left ↔ notice = .register) ∧ .register ∉ left := by
  have tail := (List.mem_tails _ _).mpr ordered
  simp only [greetings, List.tails, List.mem_cons, List.cons.injEq,
    reduceCtorEq, List.not_mem_nil, or_false] at tail
  rcases tail with ⟨rfl, rfl⟩ | ⟨rfl, rfl⟩ | ⟨rfl, rfl⟩ | ⟨rfl, rfl⟩
  all_goals decide

theorem greet {notice : Notice} {readings : Readings}
    (told : Told earlier (notice :: left)) :
    Told (earlier.post (notice.message config readings)) left := by
  obtain ⟨asking, alone⟩ := ordered_cases told.ordered
  have ordered := (List.suffix_cons notice left).trans told.ordered
  by_cases registers : notice = .register
  · subst registers
    constructor
    · exact ordered
    · intro _
      refine ⟨config.register readings.selectedModels, ?_, introduced_concat⟩
      rw [current_post, introduced_concat]
      rfl
    · exact fun sent => absurd (asking.mpr rfl) sent
  · have whole : .register ∉ notice :: left := by
      intro member
      rcases List.mem_cons.mp member with same | later
      · exact registers same.symm
      · exact alone later
    have other : (notice.message config readings).isRegister = false :=
      isRegister_message registers
    have kept := told.post other
    constructor
    · exact ordered
    · exact fun _ => kept.registered whole
    · intro sent
      by_cases asks : notice = .catalogRequest
      · subst asks
        obtain ⟨register, current, -⟩ := told.registered whole
        exact ⟨earlier.current, [], current_post, by rw [current]; rfl⟩
      · apply kept.asked
        intro member
        rcases List.mem_cons.mp member with same | later
        · exact asks same.symm
        · exact sent later

end Told

namespace Greeted

variable {earlier later : Deliveries} {loses : Bool}
variable {said : Option Message}

theorem own_post (greeted : Greeted config earlier) {text : Message}
    (spoken : ∀ register, text = .register register →
      ∃ models, register = config.register models) :
    ∀ register, .register register ∈ (earlier.post text).posted →
      ∃ models, register = config.register models := by
  intro register member
  rcases List.mem_append.mp member with old | new
  · exact greeted.own register old
  · exact spoken register (List.mem_singleton.mp new).symm

theorem post (greeted : Greeted config earlier) {text : Message}
    (other : text.isRegister = false) : Greeted config (earlier.post text) := by
  constructor
  · apply greeted.own_post
    rintro register rfl
    cases other
  · exact fun whole left up => (greeted.told whole left up).post other

theorem step (greeted : Greeted config earlier)
    (taken : earlier.Step config loses said later) : Greeted config later := by
  cases taken with
  | stay => exact greeted
  | drop idle =>
      exact ⟨greeted.own, fun whole left up =>
        (greeted.told whole left up).congr rfl rfl⟩
  | start idle =>
      refine ⟨greeted.own, fun _ left up => ?_⟩
      obtain rfl := Option.some.inj up
      constructor
      · exact List.suffix_refl _
      · exact fun sent => absurd (by decide) sent
      · exact fun sent => absurd (by decide) sent
  | greet notice left readings next opened =>
      constructor
      · apply greeted.own_post
        intro register spoken
        cases notice with
        | register =>
            injection spoken with same
            exact ⟨readings.selectedModels, same.symm⟩
        | _ => cases spoken
      · intro whole now up
        obtain rfl := Option.some.inj up
        exact (greeted.told whole _ next).greet.congr rfl rfl
  | miss notice left next =>
      exact ⟨greeted.own, fun whole => absurd whole (by simp)⟩
  | notify notice readings opened =>
      exact greeted.post (isRegister_message notice.2)
  | reply frame named opened => exact greeted.post (isRegister_frame named)
  | unheard frame => exact greeted
  | write text rest latest older pending written =>
      refine ⟨greeted.own, fun whole left up => ?_⟩
      refine (greeted.told whole left up).congr ?_ rfl
      simp [Deliveries.current, pending, written]
  | lose text rest pending up =>
      exact ⟨greeted.own, fun _ left alive => by cases alive⟩
  | finish up => exact ⟨greeted.own, fun _ left alive => by cases alive⟩
  | dispose idle =>
      refine ⟨greeted.own, fun _ left up => ?_⟩
      rw [idle] at up
      cases up
  | renew idle closed =>
      refine ⟨greeted.own, fun _ left up => ?_⟩
      rw [idle] at up
      cases up

end Greeted

theorem greeted_run (run : (tunnelClient config).Run history final) :
    Greeted config final.deliveries := by
  apply Run.invariant _ _ run
  · constructor
    · exact fun register member => by cases member
    · exact fun _ left up => by cases up
  · intro past before event after run greeted taken
    have delivered := delivered_run run
    exact greeted.step
      (TunnelClient.step_delivers delivered.connected delivered.logged taken)

namespace TunnelClient

/-- `StopAsync` has not been called for this client. -/
structure Unstopped (state : TunnelClient) : Prop where
  cancelled : state.cancelled = false
  closed : state.closed = false
  missed : state.missed = []
  running : state.phase ≠ .stopped

/-- What `StopAsync` changes. -/
def stopping (state : TunnelClient) : Bool × Bool × Bool × List Notice :=
  (state.attached, state.cancelled, state.closed, state.missed)

private theorem Unstopped.of_same (unstopped : Unstopped before)
    (same : after.stopping = before.stopping)
    (running : after.phase ≠ .stopped) : Unstopped after := by
  simp only [stopping, Prod.mk.injEq] at same
  obtain ⟨-, cancelled, closed, missed⟩ := same
  exact ⟨cancelled.trans unstopped.cancelled, closed.trans unstopped.closed,
    missed.trans unstopped.missed, running⟩

private theorem running_rest (going : state.cancelled = false) :
    state.rest.phase ≠ .stopped := by
  rw [rest, going]
  exact nofun

private theorem stopping_log (text : Message) :
    (state.log text).stopping = state.stopping := by
  unfold log
  split
  · rfl
  · rfl

private theorem stopping_stepSession {session : Session}
    (taken : before.stepSession session event = some after) :
    after.stopping = before.stopping ∧
      (before.cancelled = false → after.phase ≠ .stopped) := by
  cases event with
  | read =>
      simp only [stepSession] at taken
      split at taken
      · obtain rfl := Option.some.inj taken
        exact ⟨rfl, nofun⟩
      · cases taken
  | take =>
      simp only [stepSession] at taken
      split at taken
      · obtain rfl := Option.some.inj taken
        exact ⟨rfl, nofun⟩
      · obtain rfl := Option.some.inj taken
        exact ⟨rfl, nofun⟩
      · cases taken
  | write succeeds =>
      cases succeeds with
      | true =>
          simp only [stepSession] at taken
          split at taken
          · next text sender =>
              obtain rfl := Option.some.inj taken
              exact ⟨stopping_log text, nofun⟩
          · cases taken
      | false =>
          simp only [stepSession] at taken
          split at taken
          · obtain rfl := Option.some.inj taken
            exact ⟨rfl, nofun⟩
          · cases taken
  | interrupt =>
      simp only [stepSession] at taken
      split at taken
      · obtain rfl := Option.some.inj taken
        exact ⟨rfl, nofun⟩
      · cases taken
  | receiveEnd failed =>
      simp only [stepSession] at taken
      split at taken
      · obtain rfl := Option.some.inj taken
        exact ⟨rfl, nofun⟩
      · cases taken
  | kick =>
      obtain rfl := Option.some.inj taken
      exact ⟨rfl, nofun⟩
  | complete bySender =>
      simp only [stepSession] at taken
      split at taken
      · obtain rfl := Option.some.inj taken
        exact ⟨rfl, nofun⟩
      · obtain rfl := Option.some.inj taken
        exact ⟨rfl, nofun⟩
      · cases taken
  | disconnect =>
      simp only [stepSession] at taken
      split at taken
      · obtain rfl := Option.some.inj taken
        exact ⟨rfl, running_rest⟩
      · cases taken
  | _ => cases taken

private theorem stopping_post (stale : Bool) (text : Message) :
    (state.post stale text).stopping = state.stopping ∧
      (state.post stale text).phase = state.phase := by
  rcases post_cases stale text with same | ⟨-, sent⟩
  · rw [same]
    exact ⟨rfl, rfl⟩
  · rw [sent]
    exact ⟨rfl, rfl⟩

private theorem unstopped_greet {notice : Notice} {left : List Notice}
    {readings : Readings} (unstopped : Unstopped before)
    (attached : before.attached = true) (fresh : readings.stale = false) :
    Unstopped (greet config before notice left readings) := by
  have found : before.reaches readings.stale = true := by
    rw [reaches, attached, fresh, unstopped.closed]
    rfl
  unfold greet
  simp only
  split
  · exact unstopped.of_same rfl nofun
  · split
    · exact unstopped.of_same rfl nofun
    · next lost => exact absurd found lost

private theorem attached_greet (notice : Notice) (left : List Notice)
    (readings : Readings) :
    (greet config before notice left readings).attached = before.attached := by
  unfold greet
  simp only
  split
  · rfl
  · split
    · rfl
    · rfl

private theorem attached_cancel : state.cancel.attached = state.attached := by
  unfold cancel
  split
  · rfl
  · rfl

private theorem unstopped_step
    (unstopped : before.attached = true → Unstopped before)
    (taken : step config before event = some after)
    (attached : after.attached = true) : Unstopped after := by
  have kept (same : after.stopping = before.stopping)
      (running : before.cancelled = false → before.phase ≠ .stopped →
        after.phase ≠ .stopped) : Unstopped after := by
    have earlier := unstopped ((congrArg Prod.fst same).symm.trans attached)
    exact earlier.of_same same (running earlier.cancelled earlier.running)
  unfold step at taken
  split at taken
  case h_1 succeeds =>
    split at taken
    · obtain rfl := Option.some.inj taken
      cases succeeds with
      | true =>
          have earlier := unstopped attached
          exact ⟨earlier.cancelled, earlier.closed, rfl, nofun⟩
      | false => exact kept rfl fun going _ => running_rest going
    · cases taken
  case h_2 readings =>
    split at taken
    · next notice left phase =>
        split at taken
        · cases taken
        · next stays =>
            obtain rfl := Option.some.inj taken
            have here : before.attached = true :=
              (attached_greet notice left readings).symm.trans attached
            refine unstopped_greet (unstopped here) here ?_
            cases stale : readings.stale with
            | false => rfl
            | true =>
                rw [stale, here] at stays
                exact absurd rfl stays
    · cases taken
  case h_3 =>
    split at taken
    · obtain rfl := Option.some.inj taken
      exact kept rfl fun _ _ => nofun
    · cases taken
  case h_4 notice =>
    split at taken
    · obtain rfl := Option.some.inj taken
      exact kept rfl fun _ running => running
    · cases taken
  case h_5 index readings =>
    obtain ⟨-, taken⟩ := Option.ite_none_left_eq_some.mp taken
    obtain ⟨notice, found, taken⟩ := Option.bind_eq_some_iff.mp taken
    obtain rfl := Option.some.inj taken
    obtain ⟨same, phase⟩ := @stopping_post
      { before with noticing := before.noticing.eraseIdx index }
      readings.stale (notice.1.message config readings)
    exact kept same fun _ running => phase.symm ▸ running
  case h_6 frame stale =>
    obtain ⟨-, taken⟩ := Option.ite_none_left_eq_some.mp taken
    obtain rfl := Option.some.inj taken
    obtain ⟨same, phase⟩ := @stopping_post before stale frame
    exact kept same fun _ running => phase.symm ▸ running
  case h_7 =>
    split at taken
    · obtain rfl := Option.some.inj taken
      cases attached
    · cases taken
  case h_8 =>
    split at taken
    · cases taken
    · next detached =>
        obtain rfl := Option.some.inj taken
        rw [attached_cancel] at attached
        exact absurd attached detached
  case h_9 =>
    split at taken
    · next phase closed =>
        obtain rfl := Option.some.inj taken
        exact absurd phase (unstopped attached).running
    · cases taken
  case h_10 =>
    split at taken
    · obtain rfl := Option.some.inj taken
      exact ⟨rfl, rfl, rfl, nofun⟩
    · cases taken
  case h_11 =>
    split at taken
    · next phase =>
        obtain rfl := Option.some.inj taken
        refine kept ?_ fun going _ => ?_
        · split <;> rfl
        · rw [going]
          exact nofun
    · cases taken
  case h_12 =>
    split at taken
    · obtain ⟨same, running⟩ := stopping_stepSession taken
      exact kept same fun going _ => running going
    · cases taken

end TunnelClient

/-- Until `StopAsync` is called, every greeting finds the tunnel. -/
theorem missed_of_attached (run : (tunnelClient config).Run history final)
    (attached : final.attached = true) : final.missed = [] := by
  suffices final.attached = true → final.Unstopped from (this attached).missed
  apply Run.invariant _ _ run
  · exact fun _ => ⟨rfl, rfl, rfl, nofun⟩
  · intro past before event after _ unstopped taken
    exact TunnelClient.unstopped_step unstopped taken

end JwSwarm.WindowsNode
