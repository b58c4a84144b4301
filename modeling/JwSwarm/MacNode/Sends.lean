import Mathlib.Algebra.Order.Group.Multiset
import JwSwarm.Data.ListSet
import JwSwarm.Transition.Machine

namespace JwSwarm.MacNode

open Data Transition Machine

/-! The macOS tunnel's `send` and `run`. Each call of `send` is a task of its
own, and what waits in the queue is sent by `drainMessages` at the start of the
next connection. How the socket's `send` ends is part of the events. The tunnel
is not stopped: `stop`, after which nothing is sent any more, is no step. -/

variable {Text : Type}

/-- Where a task of `send` is: before it looks at the socket, in the socket's
`send`, and on the way to the queue. -/
inductive SendTask (Text : Type) where
  | started (text : Text)
  | sending (text : Text) (socket : ℕ)
  | queueing (text : Text)

def SendTask.text : SendTask Text → Text
  | .started text => text
  | .sending text _ => text
  | .queueing text => text

/-- Where `run` is; `pending` is what `drainMessages` has taken off the queue
and not yet sent. -/
inductive RunLoop (Text : Type) where
  | resting
  | connected
  | draining (pending : List Text)
  | drainSending (text : Text) (pending : List Text)
  | receiving

def RunLoop.texts : RunLoop Text → List Text
  | .draining pending => pending
  | .drainSending text pending => text :: pending
  | _ => []

/-- Sockets are numbered by the attempt that made them. The last three fields
are logs: what was passed to `send`, what each socket has sent, and what was
given up. -/
structure Tunnel (Text : Type) where
  socket : Option ℕ := none
  connectionAttempt : ℕ := 0
  queue : List Text := []
  tasks : List (SendTask Text) := []
  loop : RunLoop Text := .resting
  passed : List Text := []
  written : List (ℕ × Text) := []
  lost : List Text := []

inductive SendEvent (Text : Type) where
  | send (text : Text)
  | look (task : ℕ)
  | ended (task : ℕ) (succeeds : Bool)
  | enqueue (task : ℕ)
  | connect
  | drain
  | drainNext
  | drained (succeeds : Bool)
  | receive
  | close

namespace Tunnel

def stepTask (state : Tunnel Text) (index : ℕ) :
    SendEvent Text → SendTask Text → Option (Tunnel Text)
  | .look _, .started text =>
      let next := match state.socket with
        | some socket => .sending text socket
        | none => .queueing text
      some { state with tasks := state.tasks.set index next }
  | .ended _ true, .sending text socket =>
      some { state with
        tasks := state.tasks.eraseIdx index
        written := state.written ++ [(socket, text)] }
  | .ended _ false, .sending text _ =>
      some { state with tasks := state.tasks.set index (.queueing text) }
  | .enqueue _, .queueing text =>
      some { state with
        tasks := state.tasks.eraseIdx index, queue := state.queue ++ [text] }
  | _, _ => none

def stepLoop (state : Tunnel Text) :
    SendEvent Text → RunLoop Text → Option (Tunnel Text)
  | .connect, .resting =>
      let attempt := state.connectionAttempt + 1
      some { state with
        connectionAttempt := attempt
        socket := some attempt
        loop := .connected }
  | .drain, .connected =>
      some { state with loop := .draining state.queue, queue := [] }
  | .drainNext, .draining (text :: pending) =>
      some { state with loop := .drainSending text pending }
  | .drained true, .drainSending text pending =>
      some { state with
        loop := .draining pending
        written := state.written ++ [(state.connectionAttempt, text)] }
  | .drained false, .drainSending text pending =>
      -- the error is dropped, and the text with it
      some { state with
        loop := .draining pending
        lost := state.lost ++ [text] }
  | .receive, .draining [] => some { state with loop := .receiving }
  | .close, .receiving => some { state with socket := none, loop := .resting }
  | _, _ => none

def step (state : Tunnel Text) : SendEvent Text → Option (Tunnel Text)
  | .send text =>
      some { state with
        tasks := state.tasks ++ [.started text]
        passed := state.passed ++ [text] }
  | .look index => do stepTask state index (.look index) (← state.tasks[index]?)
  | .ended index succeeds => do
      stepTask state index (.ended index succeeds) (← state.tasks[index]?)
  | .enqueue index => do
      stepTask state index (.enqueue index) (← state.tasks[index]?)
  | event => stepLoop state event state.loop

end Tunnel

def tunnel (Text : Type) : Machine (Tunnel Text) (SendEvent Text) where
  init := {}
  step := Tunnel.step

def waiting (tasks : List (SendTask Text)) : Multiset Text :=
  tasks.map SendTask.text

namespace Tunnel

def underWay (state : Tunnel Text) : Multiset Text :=
  waiting state.tasks + state.queue + state.loop.texts

def sent (state : Tunnel Text) : Multiset Text :=
  state.written.map Prod.snd

def places (state : Tunnel Text) : Multiset Text :=
  state.underWay + state.sent + state.lost

end Tunnel

def SendEvent.gaveUp : SendEvent Text → Bool
  | .drained false => true
  | _ => false

def failedDrains (history : History (Tunnel Text) (SendEvent Text)) : ℕ :=
  history.countP fun taken => taken.2.gaveUp

variable {before after final : Tunnel Text} {event : SendEvent Text}
variable {tasks : List (SendTask Text)} {index : ℕ} {old new : SendTask Text}
variable {history : History (Tunnel Text) (SendEvent Text)}

theorem waiting_set (found : tasks[index]? = some old)
    (same : new.text = old.text) :
    waiting (tasks.set index new) = waiting tasks :=
  congrArg Multiset.ofList (map_set_of_eq SendTask.text found same)

theorem waiting_eraseIdx (found : tasks[index]? = some old) :
    waiting tasks = waiting (tasks.eraseIdx index) + {old.text} := by
  obtain ⟨inside, rfl⟩ := List.getElem?_eq_some_iff.mp found
  have moved := (List.getElem_cons_eraseIdx_perm inside).map SendTask.text
  have whole : waiting tasks = tasks[index].text ::ₘ
      waiting (tasks.eraseIdx index) := (Multiset.coe_eq_coe.mpr moved).symm
  rw [whole, ← Multiset.singleton_add, add_comm]

/-- What a step leaves of the texts: all of them in one place each, and one more
given up when a send of `drainMessages` fails. -/
structure Keeps (before after : Tunnel Text) (gaveUp : Bool) : Prop where
  places : after.places = before.places
  passed : after.passed = before.passed
  lost : after.lost.length = before.lost.length + gaveUp.toNat

namespace Tunnel

theorem stepTask_keeps (found : before.tasks[index]? = some old)
    (taken : before.stepTask index event old = some after) :
    Keeps before after event.gaveUp := by
  unfold stepTask at taken
  split at taken
  case h_1 text =>
    obtain rfl := Option.some.inj taken
    refine ⟨?_, rfl, rfl⟩
    simp only [places, underWay, sent]
    rw [waiting_set found]
    cases before.socket with
    | none => rfl
    | some socket => rfl
  case h_2 text socket =>
    obtain rfl := Option.some.inj taken
    refine ⟨?_, rfl, rfl⟩
    simp only [places, underWay, sent, waiting_eraseIdx found, List.map_append,
      ← Multiset.coe_add, List.map_singleton, Multiset.coe_singleton,
      SendTask.text]
    abel
  case h_3 text socket =>
    obtain rfl := Option.some.inj taken
    refine ⟨?_, rfl, rfl⟩
    simp only [places, underWay, sent]
    rw [@waiting_set _ _ _ _ (.queueing text) found rfl]
  case h_4 text =>
    obtain rfl := Option.some.inj taken
    refine ⟨?_, rfl, rfl⟩
    simp only [places, underWay, sent, waiting_eraseIdx found,
      ← Multiset.coe_add, Multiset.coe_singleton, SendTask.text]
    abel
  case h_5 => cases taken

private theorem stepLoop_keeps {loop : RunLoop Text}
    (phase : before.loop = loop)
    (taken : before.stepLoop event loop = some after) :
    Keeps before after event.gaveUp := by
  unfold stepLoop at taken
  split at taken
  case h_1 =>
    obtain rfl := Option.some.inj taken
    refine ⟨?_, rfl, rfl⟩
    simp only [places, underWay, phase]
    rfl
  case h_2 =>
    obtain rfl := Option.some.inj taken
    refine ⟨?_, rfl, rfl⟩
    simp only [places, underWay, sent, phase, RunLoop.texts, Multiset.coe_nil]
    abel
  case h_3 text pending =>
    obtain rfl := Option.some.inj taken
    refine ⟨?_, rfl, rfl⟩
    simp only [places, underWay, phase]
    rfl
  case h_4 text pending =>
    obtain rfl := Option.some.inj taken
    refine ⟨?_, rfl, rfl⟩
    simp only [places, underWay, sent, phase, RunLoop.texts, List.map_append,
      ← Multiset.coe_add, List.map_singleton, ← Multiset.cons_coe,
      ← Multiset.singleton_add]
    abel
  case h_5 text pending =>
    obtain rfl := Option.some.inj taken
    refine ⟨?_, rfl, List.length_append⟩
    simp only [places, underWay, sent, phase, RunLoop.texts,
      ← Multiset.coe_add, ← Multiset.cons_coe, ← Multiset.singleton_add]
    abel
  case h_6 =>
    obtain rfl := Option.some.inj taken
    refine ⟨?_, rfl, rfl⟩
    simp only [places, underWay, phase]
    rfl
  case h_7 =>
    obtain rfl := Option.some.inj taken
    refine ⟨?_, rfl, rfl⟩
    simp only [places, underWay, phase]
    rfl
  case h_8 => cases taken

private theorem step_keeps (passes : ∀ text, event ≠ .send text)
    (taken : before.step event = some after) :
    Keeps before after event.gaveUp := by
  unfold step at taken
  split at taken
  case h_1 text => exact absurd rfl (passes text)
  case h_2 index =>
    obtain ⟨task, found, taken⟩ := Option.bind_eq_some_iff.mp taken
    exact stepTask_keeps found taken
  case h_3 index succeeds =>
    obtain ⟨task, found, taken⟩ := Option.bind_eq_some_iff.mp taken
    exact stepTask_keeps found taken
  case h_4 index =>
    obtain ⟨task, found, taken⟩ := Option.bind_eq_some_iff.mp taken
    exact stepTask_keeps found taken
  case h_5 => exact stepLoop_keeps rfl taken

private theorem places_send (text : Text)
    (taken : before.step (.send text) = some after) :
    after.places = before.places + {text} ∧
      after.passed = before.passed ++ [text] ∧ after.lost = before.lost := by
  obtain rfl := Option.some.inj taken
  refine ⟨?_, rfl, rfl⟩
  simp only [places, underWay, sent, waiting, List.map_append,
    List.map_singleton, ← Multiset.coe_add, Multiset.coe_singleton,
    SendTask.text]
  abel

end Tunnel

/-- Every text that was passed to `send` is in one place, and the places that
hold no text any more are the failed sends of `drainMessages`. -/
structure Accounted (history : History (Tunnel Text) (SendEvent Text))
    (state : Tunnel Text) : Prop where
  whole : state.places = state.passed
  lost : state.lost.length = failedDrains history

theorem failedDrains_concat :
    failedDrains (history ++ [(before, event)]) =
      failedDrains history + event.gaveUp.toNat := by
  rw [failedDrains, List.countP_append]
  cases gave : event.gaveUp with
  | false => simp [gave, failedDrains]
  | true => simp [gave, failedDrains]

theorem Accounted.keeps (accounted : Accounted history before)
    (keeps : Keeps before after event.gaveUp) :
    Accounted (history ++ [(before, event)]) after := by
  constructor
  · rw [keeps.places, keeps.passed]
    exact accounted.whole
  · rw [failedDrains_concat, keeps.lost, accounted.lost]

theorem Accounted.step (accounted : Accounted history before)
    (taken : before.step event = some after) :
    Accounted (history ++ [(before, event)]) after := by
  cases event with
  | send text =>
      obtain ⟨places, passed, lost⟩ := Tunnel.places_send text taken
      constructor
      · rw [places, passed, accounted.whole]
        exact Multiset.coe_add _ _
      · rw [failedDrains_concat, lost]
        exact accounted.lost
  | _ => exact accounted.keeps (Tunnel.step_keeps (by simp) taken)

/-- A text passed to `send` is sent once, on one connection, or is under way, or
was given up by a send of `drainMessages` that failed; no other failure loses a
text, however the tasks and the connections interleave, until the tunnel is
stopped. -/
theorem accounted_for (run : (tunnel Text).Run history final) :
    (final.passed : Multiset Text) =
        final.underWay + final.sent + final.lost ∧
      final.lost.length = failedDrains history := by
  have accounted : Accounted history final := by
    apply Run.invariant _ _ run
    · exact ⟨rfl, rfl⟩
    · intro past before event after _ accounted taken
      exact accounted.step taken
  exact ⟨accounted.whole.symm, accounted.lost⟩

/-- Of two texts that waited for the connection its drain sends one, and a third
one is sent by its own task. -/
theorem accounted_for_drained :
    ∃ history final, (tunnel ℕ).Run history final ∧
      final.written = [(1, 1), (1, 3)] ∧ final.lost = [2] ∧
      (final.passed : Multiset ℕ) =
        final.underWay + final.sent + final.lost := by
  obtain ⟨history, final, run, observed⟩ := (tunnel ℕ).exists_run_of_trace
    [.send 1, .look 0, .enqueue 0, .send 2, .connect, .look 0, .ended 0 false,
      .enqueue 0, .drain, .drainNext, .drained true, .drainNext,
      .drained false, .receive, .send 3, .look 0, .ended 0 true]
    (fun outcome => decide (outcome.2.written = [(1, 1), (1, 3)] ∧
      outcome.2.lost = [2]))
    (by decide)
  obtain ⟨written, lost⟩ := of_decide_eq_true observed
  exact ⟨history, final, run, written, lost, (accounted_for run).1⟩

end JwSwarm.MacNode
