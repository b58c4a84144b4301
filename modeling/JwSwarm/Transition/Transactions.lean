import JwSwarm.Transition.Machine

namespace JwSwarm.Transition

universe u

/-! Transactions on one store. The first statement of a transaction takes the
store's only write lock and works on a private copy, a commit publishes the
copy, and a failure discards it. -/

variable {Store Call : Type u}

def runAll : List (Store → Option Store) → Store → Option Store
  | [], store => some store
  | statement :: rest, store => (statement store).bind (runAll rest)

/-- The holder of the write lock: how many of its statements have been executed,
and what they have made of the store. -/
structure Writer (Store : Type u) where
  holder : ℕ
  position : ℕ
  copy : Store

/-- `pending` has one slot for each transaction, empty once it has ended. -/
structure TxState (Store Call : Type u) where
  store : Store
  pending : List (Option Call) := []
  writer : Option (Writer Store) := none

/-- A transaction can fail at any of its statements and at its commit. -/
inductive TxEvent (Call : Type u) where
  | start (call : Call)
  | execute (index : ℕ)
  | commit (index : ℕ)
  | fail (index : ℕ)

namespace TxState

def call? (state : TxState Store Call) (index : ℕ) : Option Call :=
  state.pending[index]?.join

/-- The position and the source of a transaction's next statement, unless
another one holds the lock. -/
def turn (state : TxState Store Call) (index : ℕ) : Option (ℕ × Store) :=
  match state.writer with
  | none => some (0, state.store)
  | some writer =>
      if writer.holder = index then some (writer.position, writer.copy)
      else none

def close (state : TxState Store Call) (index : ℕ) : TxState Store Call :=
  { state with
    pending := state.pending.set index none
    writer := state.writer.filter fun writer => writer.holder ≠ index }

end TxState

section Machine

variable (statements : Call → List (Store → Option Store))

def txExecute (state : TxState Store Call) (index : ℕ) :
    Option (TxState Store Call) :=
  (state.call? index).bind fun call =>
    (state.turn index).bind fun (position, source) =>
      (statements call)[position]?.bind fun statement =>
        (statement source).map fun copy =>
          { state with writer := some ⟨index, position + 1, copy⟩ }

def txCommit (state : TxState Store Call) (index : ℕ) :
    Option (TxState Store Call) :=
  (state.call? index).bind fun call =>
    state.writer.bind fun writer =>
      if writer.holder = index ∧ writer.position = (statements call).length then
        some { state.close index with store := writer.copy }
      else none

def txStep (state : TxState Store Call) :
    TxEvent Call → Option (TxState Store Call)
  | .start call => some { state with pending := state.pending ++ [some call] }
  | .execute index => txExecute statements state index
  | .commit index => txCommit statements state index
  | .fail index => (state.call? index).map fun _ => state.close index

def transactional (start : Store) :
    Machine (TxState Store Call) (TxEvent Call) where
  init := { store := start }
  step := txStep statements

def runSerial (calls : List Call) (store : Store) : Option Store :=
  runAll (calls.map fun call => runAll (statements call)) store

end Machine

def committed (history : History (TxState Store Call) (TxEvent Call)) :
    List Call :=
  history.filterMap fun taken =>
    match taken.2 with
    | .commit index => taken.1.call? index
    | _ => none

section Serial

variable {statements : Call → List (Store → Option Store)} {start : Store}
variable {history : History (TxState Store Call) (TxEvent Call)}
variable {before after final : TxState Store Call} {event : TxEvent Call}

theorem runAll_append (first second : List (Store → Option Store))
    (store : Store) :
    runAll (first ++ second) store =
      (runAll first store).bind (runAll second) := by
  induction first generalizing store with
  | nil => rfl
  | cons statement rest ih =>
      rw [List.cons_append, runAll, runAll, Option.bind_assoc]
      apply congrArg
      funext next
      exact ih next

private theorem runAll_concat (first : List (Store → Option Store))
    (statement : Store → Option Store) (store : Store) :
    runAll (first ++ [statement]) store =
      (runAll first store).bind statement := by
  rw [runAll_append]
  apply congrArg
  funext next
  exact Option.bind_fun_some _

private theorem call?_eq_some_iff {state : TxState Store Call} {index : ℕ}
    {call : Call} :
    state.call? index = some call ↔
      state.pending[index]? = some (some call) :=
  Option.join_eq_some_iff

/-- The lock's holder is pending, and its copy is what its statements so far
make of the store as it is. -/
def Isolated (statements : Call → List (Store → Option Store))
    (state : TxState Store Call) : Prop :=
  ∀ writer, state.writer = some writer →
    ∃ call, state.call? writer.holder = some call ∧
      runAll ((statements call).take writer.position) state.store =
        some writer.copy

theorem Isolated.close (isolated : Isolated statements before) (index : ℕ) :
    Isolated statements (before.close index) := by
  intro writer holds
  obtain ⟨held, other⟩ := Option.filter_eq_some_iff.mp holds
  obtain ⟨call, pending, copied⟩ := isolated writer held
  refine ⟨call, ?_, copied⟩
  have other : writer.holder ≠ index := of_decide_eq_true other
  rw [TxState.call?, TxState.close, List.getElem?_set_ne (Ne.symm other)]
  exact pending

theorem txExecute_cases {index : ℕ}
    (taken : txExecute statements before index = some after) :
    ∃ call position source statement copy,
      before.call? index = some call ∧
      before.turn index = some (position, source) ∧
      (statements call)[position]? = some statement ∧
      statement source = some copy ∧
      after = { before with writer := some ⟨index, position + 1, copy⟩ } := by
  obtain ⟨call, pending, rest⟩ := Option.bind_eq_some_iff.mp taken
  obtain ⟨⟨position, source⟩, turn, rest⟩ := Option.bind_eq_some_iff.mp rest
  obtain ⟨statement, next, rest⟩ := Option.bind_eq_some_iff.mp rest
  obtain ⟨copy, executed, same⟩ := Option.map_eq_some_iff.mp rest
  exact ⟨call, position, source, statement, copy, pending, turn, next,
    executed, same.symm⟩

theorem txCommit_cases {index : ℕ}
    (taken : txCommit statements before index = some after) :
    ∃ call writer, before.call? index = some call ∧
      before.writer = some writer ∧ writer.holder = index ∧
      writer.position = (statements call).length ∧
      after = { before.close index with store := writer.copy } := by
  obtain ⟨call, pending, rest⟩ := Option.bind_eq_some_iff.mp taken
  obtain ⟨writer, held, rest⟩ := Option.bind_eq_some_iff.mp rest
  split at rest
  · next complete =>
      exact ⟨call, writer, pending, held, complete.1, complete.2,
        (Option.some.inj rest).symm⟩
  · cases rest

private theorem isolated_execute {index : ℕ}
    (isolated : Isolated statements before)
    (taken : txExecute statements before index = some after) :
    Isolated statements after := by
  obtain ⟨call, position, source, statement, copy, pending, turn, next,
    executed, rfl⟩ := txExecute_cases taken
  intro writer holds
  obtain rfl := Option.some.inj holds
  refine ⟨call, pending, ?_⟩
  have sofar : runAll ((statements call).take position) before.store =
      some source := by
    unfold TxState.turn at turn
    cases held : before.writer with
    | none =>
        rw [held] at turn
        obtain ⟨rfl, rfl⟩ : 0 = position ∧ before.store = source := by
          simpa using turn
        rfl
    | some writer =>
        rw [held] at turn
        simp only at turn
        split at turn
        · next own =>
            obtain ⟨rfl, rfl⟩ : writer.position = position ∧
                writer.copy = source := by
              simpa using turn
            obtain ⟨other, known, copied⟩ := isolated writer held
            rw [own, pending] at known
            obtain rfl := Option.some.inj known
            exact copied
        · cases turn
  rw [List.take_add_one, next, Option.toList_some, runAll_concat, sofar]
  exact executed

private theorem isolated_step (isolated : Isolated statements before)
    (taken : txStep statements before event = some after) :
    Isolated statements after := by
  cases event with
  | start call =>
      obtain rfl := Option.some.inj taken
      intro writer holds
      obtain ⟨own, pending, copied⟩ := isolated writer holds
      refine ⟨own, ?_, copied⟩
      rw [call?_eq_some_iff] at pending ⊢
      obtain ⟨inside, -⟩ := List.getElem?_eq_some_iff.mp pending
      rw [List.getElem?_append_left inside]
      exact pending
  | execute index => exact isolated_execute isolated taken
  | commit index =>
      obtain ⟨call, writer, pending, held, rfl, -, rfl⟩ :=
        txCommit_cases taken
      intro other holds
      obtain ⟨same, other⟩ := Option.filter_eq_some_iff.mp holds
      obtain rfl := Option.some.inj (held.symm.trans same)
      exact absurd rfl (of_decide_eq_true other)
  | fail index =>
      obtain ⟨call, pending, rfl⟩ := Option.map_eq_some_iff.mp taken
      exact isolated.close index

theorem isolated_run
    (run : (transactional statements start).Run history final) :
    Isolated statements final := by
  induction run with
  | start =>
      intro writer holds
      cases holds
  | next run taken ih => exact isolated_step ih taken

theorem store_commit {index : ℕ} (isolated : Isolated statements before)
    (taken : txCommit statements before index = some after) :
    ∃ call, before.call? index = some call ∧
      runAll (statements call) before.store = some after.store := by
  obtain ⟨call, writer, pending, held, rfl, complete, rfl⟩ :=
    txCommit_cases taken
  obtain ⟨own, known, copied⟩ := isolated writer held
  obtain rfl := Option.some.inj (known.symm.trans pending)
  rw [complete, List.take_length] at copied
  exact ⟨own, pending, copied⟩

theorem store_quiet (taken : txStep statements before event = some after)
    (quiet : ∀ index, event ≠ .commit index) : after.store = before.store := by
  cases event with
  | start call =>
      obtain rfl := Option.some.inj taken
      rfl
  | execute index =>
      obtain ⟨_, _, _, _, _, -, -, -, -, rfl⟩ := txExecute_cases taken
      rfl
  | fail index =>
      obtain ⟨call, -, rfl⟩ := Option.map_eq_some_iff.mp taken
      rfl
  | commit index => exact absurd rfl (quiet index)

/-- Whatever the interleaving and whatever fails, the store is what the
committed transactions make of it one after the other. -/
theorem store_eq_serial
    (run : (transactional statements start).Run history final) :
    runSerial statements (committed history) start = some final.store := by
  induction run with
  | start => rfl
  | @next history before after event run taken ih =>
      have quiet (same : after.store = before.store)
          (none : committed [(before, event)] = []) :
          runSerial statements (committed (history ++ [(before, event)]))
            start = some after.store := by
        rw [committed, List.filterMap_append, ← committed, ← committed, none,
          List.append_nil, ih, same]
      change txStep statements before event = some after at taken
      cases event with
      | start call => exact quiet (store_quiet taken nofun) rfl
      | execute index => exact quiet (store_quiet taken nofun) rfl
      | fail index => exact quiet (store_quiet taken nofun) rfl
      | commit index =>
          obtain ⟨call, pending, ran⟩ := store_commit (isolated_run run) taken
          have last : committed [(before, .commit index)] = [call] := by
            simp [committed, pending]
          rw [committed, List.filterMap_append, ← committed, ← committed, last,
            runSerial, List.map_append, runAll_append, ← runSerial, ih]
          rw [List.map_singleton, Option.bind_some, runAll, ran]
          rfl

private theorem runSerial_invariant {holds : Store → Prop} {calls : List Call}
    {last : Store}
    (kept : ∀ call store next, holds store →
      runAll (statements call) store = some next → holds next)
    (atStart : holds start)
    (serial : runSerial statements calls start = some last) : holds last := by
  induction calls generalizing start with
  | nil =>
      obtain rfl := Option.some.inj serial
      exact atStart
  | cons call rest ih =>
      obtain ⟨next, ran, serial⟩ := Option.bind_eq_some_iff.mp serial
      exact ih (kept call start next atStart ran) serial

theorem store_invariant {holds : Store → Prop}
    (kept : ∀ call store next, holds store →
      runAll (statements call) store = some next → holds next)
    (atStart : holds start)
    (run : (transactional statements start).Run history final) :
    holds final.store :=
  runSerial_invariant kept atStart (store_eq_serial run)

end Serial

end JwSwarm.Transition
