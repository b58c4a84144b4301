import Mathlib.Data.List.Infix

namespace JwSwarm.Transition

universe u v

/-- A deterministic machine driven by events. `none` means that the event is
not enabled in the state. -/
structure Machine (State : Type u) (Event : Type v) where
  init : State
  step : State → Event → Option State

/-- The steps taken so far, each recorded with the state it was taken in. -/
abbrev History (State : Type u) (Event : Type v) := List (State × Event)

namespace Machine

inductive Run {State : Type u} {Event : Type v}
    (machine : Machine State Event) : History State Event → State → Prop
  | start : Run machine [] machine.init
  | next {history : History State Event} {before after : State} {event : Event}
      (run : Run machine history before)
      (taken : machine.step before event = some after) :
      Run machine (history ++ [(before, event)]) after

variable {State : Type u} {Event : Type v} {machine : Machine State Event}
variable {history earlier : History State Event} {before after final : State}
variable {event : Event}

def Reachable (machine : Machine State Event) (state : State) : Prop :=
  ∃ history, machine.Run history state

def Quiescent (machine : Machine State Event) (state : State) : Prop :=
  ∀ event, machine.step state event = none

/-- Every state passed on the way, the last one included, satisfies `holds`
of the history that led to it. -/
def Along (machine : Machine State Event)
    (holds : History State Event → State → Prop)
    (history : History State Event) : Prop :=
  ∀ earlier state, earlier <+: history → machine.Run earlier state →
    holds earlier state

/-- Every step was taken in a history and state that the guard admits. -/
def Guarded (guard : History State Event → State → Event → Prop)
    (history : History State Event) : Prop :=
  ∀ earlier state event, earlier ++ [(state, event)] <+: history →
    guard earlier state event

private theorem run_nil (run : machine.Run [] final) :
    final = machine.init := by
  generalize empty : ([] : History State Event) = steps at run
  cases run with
  | start => rfl
  | next run taken => simp at empty

theorem run_concat
    (run : machine.Run (history ++ [(before, event)]) after) :
    machine.Run history before ∧ machine.step before event = some after := by
  generalize whole : history ++ [(before, event)] = steps at run
  cases run with
  | start => simp at whole
  | next run taken =>
      obtain ⟨rfl, last⟩ := List.append_inj' whole rfl
      obtain ⟨rfl, rfl⟩ : before = _ ∧ event = _ := by simpa using last
      exact ⟨run, taken⟩

theorem Run.functional (first : machine.Run history before)
    (second : machine.Run history after) : before = after := by
  induction first generalizing after with
  | start => exact (run_nil second).symm
  | next run taken ih =>
      exact Option.some.inj (taken.symm.trans (run_concat second).2)

theorem Run.of_prefix (run : machine.Run history final)
    (inside : earlier ++ [(before, event)] <+: history) :
    machine.Run earlier before := by
  induction run with
  | start => simp at inside
  | next run taken ih =>
      rcases List.prefix_concat_iff.mp inside with whole | inside
      · obtain ⟨rfl, last⟩ := List.append_inj' whole rfl
        obtain ⟨rfl, -⟩ : before = _ ∧ event = _ := by simpa using last
        exact run
      · exact ih inside

theorem Guarded.start {guard : History State Event → State → Event → Prop} :
    Guarded guard [] := by
  intro earlier state event inside
  simp at inside

theorem Guarded.of_prefix
    {guard : History State Event → State → Event → Prop}
    (guarded : Guarded guard history) (inside : earlier <+: history) :
    Guarded guard earlier :=
  fun past state event within => guarded past state event (within.trans inside)

theorem guarded_concat
    {guard : History State Event → State → Event → Prop} :
    Guarded guard (history ++ [(before, event)]) ↔
      Guarded guard history ∧ guard history before event := by
  constructor
  · intro guarded
    exact ⟨fun earlier state event inside =>
        guarded earlier state event (inside.trans (List.prefix_append _ _)),
      guarded history before event (List.prefix_refl _)⟩
  · rintro ⟨guarded, last⟩ earlier state event' inside
    rcases List.prefix_concat_iff.mp inside with whole | inside
    · obtain ⟨rfl, same⟩ := List.append_inj' whole rfl
      obtain ⟨rfl, rfl⟩ : state = before ∧ event' = event := by
        simpa using same
      exact last
    · exact guarded earlier state event' inside

theorem guarded_iff_forall_mem {guard : State → Event → Prop} :
    Guarded (fun _ => guard) history ↔
      ∀ taken ∈ history, guard taken.1 taken.2 := by
  constructor
  · intro guarded taken member
    obtain ⟨earlier, later, rfl⟩ := List.append_of_mem member
    exact guarded earlier taken.1 taken.2 ⟨later, by simp⟩
  · intro each earlier state event inside
    exact each (state, event) (inside.subset (by simp))

private theorem along_concat {holds : History State Event → State → Prop}
    (run : machine.Run history before)
    (taken : machine.step before event = some after) :
    machine.Along holds (history ++ [(before, event)]) ↔
      machine.Along holds history ∧
        holds (history ++ [(before, event)]) after := by
  constructor
  · intro along
    exact ⟨fun earlier state inside =>
        along earlier state (inside.trans (List.prefix_append _ _)),
      along _ after (List.prefix_refl _) (run.next taken)⟩
  · rintro ⟨along, last⟩ earlier state inside reached
    rcases List.prefix_concat_iff.mp inside with rfl | inside
    · rwa [reached.functional (run.next taken)]
    · exact along earlier state inside reached

theorem Along.last {holds : History State Event → State → Prop}
    (along : machine.Along holds history)
    (run : machine.Run history final) : holds history final :=
  along history final (List.prefix_refl _) run

/-- Invariants: what holds at the start and is kept by every step of a run
holds of every run. -/
theorem Run.invariant {holds : History State Event → State → Prop}
    (atStart : holds [] machine.init)
    (kept : ∀ {history before event after}, machine.Run history before →
      holds history before → machine.step before event = some after →
      holds (history ++ [(before, event)]) after)
    (run : machine.Run history final) : holds history final := by
  induction run with
  | start => exact atStart
  | next run taken ih => exact kept run ih taken

theorem Run.length_add_le {potential : State → ℕ}
    (lowered : ∀ {history before event after}, machine.Run history before →
      machine.step before event = some after →
      potential after < potential before)
    (run : machine.Run history final) :
    history.length + potential final ≤ potential machine.init := by
  induction run with
  | start => simp
  | next run taken ih =>
      have less := lowered run taken
      rw [List.length_append, List.length_singleton]
      omega

theorem Run.guarded_invariant
    {holds : History State Event → State → Prop}
    {guard : History State Event → State → Event → Prop}
    (atStart : holds [] machine.init)
    (kept : ∀ {history before event after}, machine.Run history before →
      holds history before → guard history before event →
      machine.step before event = some after →
      holds (history ++ [(before, event)]) after)
    (run : machine.Run history final) (guarded : Guarded guard history) :
    holds history final := by
  induction run with
  | start => exact atStart
  | next run taken ih =>
      obtain ⟨guarded, last⟩ := guarded_concat.mp guarded
      exact kept run (ih guarded) last taken

/-- When a guard decides whether one step keeps the invariant, it decides it
for whole runs: the invariant holds all along exactly when every step meets
the guard. -/
theorem Run.along_iff_guarded
    {holds : History State Event → State → Prop}
    {guard : History State Event → State → Event → Prop}
    (atStart : holds [] machine.init)
    (decided : ∀ {history before event after}, machine.Run history before →
      holds history before → machine.step before event = some after →
      (holds (history ++ [(before, event)]) after ↔
        guard history before event))
    (run : machine.Run history final) :
    machine.Along holds history ↔ Guarded guard history := by
  induction run with
  | start =>
      refine ⟨fun _ => Guarded.start, fun _ earlier state inside reached => ?_⟩
      obtain rfl := List.prefix_nil.mp inside
      rwa [reached.functional .start]
  | next run taken ih =>
      rw [along_concat run taken, guarded_concat, ← ih]
      exact and_congr_right fun along => decided run (along.last run) taken

def trace (machine : Machine State Event) :
    List Event → History State Event → State →
      Option (History State Event × State)
  | [], history, state => some (history, state)
  | event :: rest, history, state =>
      (machine.step state event).bind fun next =>
        machine.trace rest (history ++ [(state, event)]) next

theorem trace_run {events : List Event} (run : machine.Run earlier before)
    (traced : machine.trace events earlier before = some (history, final)) :
    machine.Run history final := by
  induction events generalizing earlier before with
  | nil =>
      obtain ⟨rfl, rfl⟩ : earlier = history ∧ before = final := by
        simpa [trace] using traced
      exact run
  | cons event rest ih =>
      obtain ⟨next, taken, traced⟩ := Option.bind_eq_some_iff.mp traced
      exact ih (run.next taken) traced

/-- A run with an observable outcome, found by executing its events. -/
theorem exists_run_of_trace (events : List Event)
    (outcome : History State Event × State → Bool)
    (observed : (machine.trace events [] machine.init).any outcome = true) :
    ∃ history final, machine.Run history final ∧
      outcome (history, final) = true := by
  cases traced : machine.trace events [] machine.init with
  | none => simp [traced] at observed
  | some result =>
      refine ⟨result.1, result.2, trace_run .start traced, ?_⟩
      simpa [traced] using observed

def admits (check : History State Event → State → Event → Bool) :
    History State Event → History State Event → Bool
  | _, [] => true
  | earlier, (state, event) :: rest =>
      check earlier state event && admits check (earlier ++ [(state, event)]) rest

private theorem admits_prefix
    {check : History State Event → State → Event → Bool}
    {past rest : History State Event} {state : State}
    (admitted : admits check past rest = true)
    (inside : earlier ++ [(state, event)] <+: rest) :
    check (past ++ earlier) state event = true := by
  induction rest generalizing past earlier with
  | nil => simp at inside
  | cons head tail ih =>
      obtain ⟨first, others⟩ := (Bool.and_eq_true _ _).mp admitted
      cases earlier with
      | nil =>
          obtain ⟨rfl, -⟩ := List.cons_prefix_cons.mp inside
          rw [List.append_nil]
          exact first
      | cons step earlier =>
          obtain ⟨rfl, within⟩ := List.cons_prefix_cons.mp inside
          have later := ih others within
          rwa [List.append_assoc] at later

theorem guarded_of_admits
    {check : History State Event → State → Event → Bool}
    (admitted : admits check [] history = true) :
    Guarded (fun earlier state event => check earlier state event = true)
      history :=
  fun _ _ _ inside => admits_prefix admitted inside

end Machine

end JwSwarm.Transition
