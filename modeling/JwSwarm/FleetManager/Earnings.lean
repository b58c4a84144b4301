import Mathlib.Algebra.BigOperators.Group.List.Basic
import JwSwarm.FleetManager.Balances

namespace JwSwarm.FleetManager

open Data Proto Transition Machine

/-! The earnings of a node, read by two queries while other tasks credit it.
Each query sees what is committed at the time. -/

inductive SqliteValue where
  | null
  | integer (value : ℤ)
  | real (value : ℚ)
  | text (value : String)

abbrev SqliteRow := List SqliteValue

namespace SqliteRow

def getInteger (row : SqliteRow) (index : ℕ) : Option ℤ :=
  match row[index]? with
  | some (.integer value) => some value
  | _ => none

def getReal (row : SqliteRow) (index : ℕ) : Option ℚ :=
  match row[index]? with
  | some (.real value) => some value
  | _ => none

def getText (row : SqliteRow) (index : ℕ) : Option String :=
  match row[index]? with
  | some (.text value) => some value
  | _ => none

end SqliteRow

structure LedgerEntry where
  id : ℤ
  kind : String
  points : ℚ
  sourceRef : String
  createdAt : String

def LedgerEntry.ofRow (row : SqliteRow) : Option LedgerEntry := do
  let id ← row.getInteger 0
  let kind ← row.getText 1
  let points ← row.getReal 2
  let sourceRef ← row.getText 3
  let createdAt ← row.getText 4
  return { id, kind, points, sourceRef, createdAt }

structure NodeEarnings where
  nodeId : NodeId
  totalPoints : ℚ
  entries : List LedgerEntry

section Queries

-- the text that a clock reading is stored as
variable (rfc3339 : ℕ → String)

/-- Rows are numbered from 1 in the order of their inserts. -/
def sqliteRow (row : LedgerRow × ℕ) : SqliteRow :=
  [.integer (row.2 + 1), .text row.1.kind, .real row.1.points,
    .text row.1.sourceRef, .text (rfc3339 row.1.createdAt)]

/-- `WHERE node_id = ? ORDER BY created_at DESC` -/
def selectLedger (db : Db) (nodeId : NodeId) : List SqliteRow :=
  ((db.pointsLedger.zipIdx.filter fun row => row.1.nodeId == nodeId).mergeSort
    fun first second =>
      decide (rfc3339 second.1.createdAt ≤ rfc3339 first.1.createdAt)).map
    (sqliteRow rfc3339)

inductive EarningsQuery where
  | waiting
  | totalled (total : Option ℚ)
  | responded (response : Option NodeEarnings)

structure EarningsState where
  tx : TxState Db (ℕ × DbCall)
  query : EarningsQuery := .waiting

inductive EarningsEvent where
  | write (event : TxEvent (ℕ × DbCall))
  | queryTotal (succeeds : Bool)
  | queryEntries (succeeds : Bool)

/-- A failed query is answered with an error. -/
def stepEarnings (nodeId : NodeId) (state : EarningsState) :
    EarningsEvent → Option EarningsState
  | .write event =>
      (txStep dbStatements state.tx event).map fun tx => { state with tx }
  | .queryTotal succeeds =>
      match state.query with
      | .waiting =>
          some { state with
            query :=
              if succeeds then
                .totalled (state.tx.store.nodeBalances.lookup nodeId)
              else .responded none }
      | _ => none
  | .queryEntries succeeds =>
      match state.query with
      | .totalled total =>
          some { state with
            query := .responded (if succeeds then
              some {
                nodeId
                totalPoints := total.getD 0
                entries :=
                  (selectLedger rfc3339 state.tx.store nodeId).filterMap
                    LedgerEntry.ofRow }
              else none) }
      | _ => none

def adminNodeEarnings (tables : Db) (nodeId : NodeId) :
    Machine EarningsState EarningsEvent where
  init := { tx := { store := uncredited tables } }
  step := stepEarnings rfc3339 nodeId

end Queries

def DbCall.pointsFor (nodeId : NodeId) : DbCall → ℚ
  | .creditPoints other _ points _ => if other = nodeId then points else 0
  | _ => 0

def EarningsState.credits (state : EarningsState) (nodeId : NodeId) :
    EarningsEvent → ℚ
  | .write (.commit index) =>
      match state.query with
      | .totalled _ =>
          ((state.tx.call? index).map fun call =>
            call.2.pointsFor nodeId).getD 0
      | _ => 0
  | _ => 0

def creditedBetween (history : History EarningsState EarningsEvent)
    (nodeId : NodeId) : ℚ :=
  (history.map fun taken => taken.1.credits nodeId taken.2).sum

def NodeEarnings.Consistent (response : NodeEarnings) : Prop :=
  response.totalPoints = (response.entries.map LedgerEntry.points).sum

/-- What the total lacks of the ledger, or of the entries read from it, has been
credited between the queries. -/
private def EarningsAgree (nodeId : NodeId) (credited : ℚ) (store : Db) :
    EarningsQuery → Prop
  | .waiting => credited = 0
  | .totalled total => total.getD 0 + credited = ledgerTotal store nodeId
  | .responded none => True
  | .responded (some response) =>
      response.totalPoints + credited =
        (response.entries.map LedgerEntry.points).sum

variable {rfc3339 : ℕ → String} {tables db next : Db} {nodeId : NodeId}
variable {history : History EarningsState EarningsEvent}
variable {before after final : EarningsState} {event : EarningsEvent}
variable {response : NodeEarnings} {now : ℕ} {call : DbCall}

private theorem ledgerTotal_exec (executed : db.exec now call = some next) :
    ledgerTotal next nodeId =
      ledgerTotal db nodeId + call.pointsFor nodeId := by
  have ledger : ledgerTotal next nodeId =
      ledgerTotal { db with pointsLedger := next.pointsLedger } nodeId := rfl
  rw [ledger, (Db.rows_exec executed).2]
  cases call with
  | creditPoints other kind points sourceRef =>
      exact ledgerTotal_append db _ nodeId
  | _ => simp [Db.ledgerRows, DbCall.pointsFor]

private theorem ofRow_sqliteRow (row : LedgerRow × ℕ) :
    (LedgerEntry.ofRow (sqliteRow rfc3339 row)).map LedgerEntry.points =
      some row.1.points := rfl

private theorem sum_entries : (((selectLedger rfc3339 db nodeId).filterMap
    LedgerEntry.ofRow).map LedgerEntry.points).sum = ledgerTotal db nodeId := by
  have decoded : (fun row => (LedgerEntry.ofRow row).map LedgerEntry.points) ∘
      sqliteRow rfc3339 = some ∘ fun row => row.1.points :=
    funext ofRow_sqliteRow
  rw [List.map_filterMap, selectLedger, List.filterMap_map, decoded,
    List.filterMap_eq_map, ((List.mergeSort_perm _ _).map _).sum_eq]
  rw [ledgerTotal]
  have numbered : db.pointsLedger = db.pointsLedger.zipIdx.map Prod.fst :=
    (List.zipIdx_map_fst 0 _).symm
  conv_rhs => rw [numbered, List.filter_map, List.map_map]
  rfl

theorem stepEarnings_cases
    (taken : stepEarnings rfc3339 nodeId before event = some after) :
    (∃ write, event = .write write ∧
      txStep dbStatements before.tx write = some after.tx ∧
      after.query = before.query) ∨
    (∃ succeeds, event = .queryTotal succeeds ∧ before.query = .waiting ∧
      after.tx = before.tx ∧ after.query =
        if succeeds then
          .totalled (before.tx.store.nodeBalances.lookup nodeId)
        else .responded none) ∨
    ∃ succeeds total, event = .queryEntries succeeds ∧
      before.query = .totalled total ∧ after.tx = before.tx ∧
      after.query = .responded (if succeeds then
        some {
          nodeId
          totalPoints := total.getD 0
          entries := (selectLedger rfc3339 before.tx.store nodeId).filterMap
            LedgerEntry.ofRow }
        else none) := by
  cases event with
  | write write =>
      obtain ⟨tx, written, rfl⟩ := Option.map_eq_some_iff.mp taken
      exact .inl ⟨write, rfl, written, rfl⟩
  | queryTotal succeeds =>
      simp only [stepEarnings] at taken
      split at taken
      · next waiting =>
          obtain rfl := Option.some.inj taken
          exact .inr (.inl ⟨succeeds, rfl, waiting, rfl, rfl⟩)
      · cases taken
  | queryEntries succeeds =>
      simp only [stepEarnings] at taken
      split at taken
      · next total totalled =>
          obtain rfl := Option.some.inj taken
          exact .inr (.inr ⟨succeeds, total, rfl, totalled, rfl, rfl⟩)
      · cases taken

private theorem exists_tx_run
    (run : (adminNodeEarnings rfc3339 tables nodeId).Run history final) :
    ∃ writes, (transactional dbStatements (uncredited tables)).Run writes
      final.tx := by
  induction run with
  | start => exact ⟨[], .start⟩
  | next run taken ih =>
      obtain ⟨writes, reached⟩ := ih
      rcases stepEarnings_cases taken with ⟨write, -, written, -⟩ |
        ⟨succeeds, -, -, same, -⟩ | ⟨succeeds, total, -, -, same, -⟩
      · exact ⟨_, reached.next written⟩
      · exact ⟨writes, same ▸ reached⟩
      · exact ⟨writes, same ▸ reached⟩

private theorem creditedBetween_concat :
    creditedBetween (history ++ [(before, event)]) nodeId =
      creditedBetween history nodeId + before.credits nodeId event := by
  simp [creditedBetween]

private theorem ledgerTotal_write {write : TxEvent (ℕ × DbCall)}
    {total : Option ℚ} (isolated : Transition.Isolated dbStatements before.tx)
    (totalled : before.query = .totalled total)
    (written : txStep dbStatements before.tx write = some after.tx) :
    ledgerTotal after.tx.store nodeId = ledgerTotal before.tx.store nodeId +
      before.credits nodeId (.write write) := by
  cases write with
  | commit index =>
      obtain ⟨call, pending, ran⟩ := store_commit isolated written
      rw [← Prod.eta call, runAll_dbStatements] at ran
      rw [ledgerTotal_exec ran]
      simp [EarningsState.credits, totalled, pending]
  | _ =>
      rw [store_quiet written nofun]
      exact (add_zero _).symm

theorem credits_eq_zero
    (outside : ∀ total, before.query ≠ .totalled total) :
    before.credits nodeId event = 0 := by
  unfold EarningsState.credits
  split
  · split
    · next total totalled => exact absurd totalled (outside total)
    · rfl
  · rfl

private theorem earningsAgree_write {write : TxEvent (ℕ × DbCall)}
    {credited : ℚ} (isolated : Transition.Isolated dbStatements before.tx)
    (agree : EarningsAgree nodeId credited before.tx.store before.query)
    (written : txStep dbStatements before.tx write = some after.tx) :
    EarningsAgree nodeId (credited + before.credits nodeId (.write write))
      after.tx.store before.query := by
  cases found : before.query with
  | waiting =>
      rw [found] at agree
      rw [credits_eq_zero (by simp [found]), add_zero]
      exact agree
  | totalled total =>
      rw [found] at agree
      rw [EarningsAgree] at agree ⊢
      rw [ledgerTotal_write isolated found written, ← add_assoc, agree]
  | responded response =>
      rw [found] at agree
      rw [credits_eq_zero (by simp [found]), add_zero]
      cases response with
      | none => trivial
      | some response => exact agree

private theorem earningsAgree_run
    (run : (adminNodeEarnings rfc3339 tables nodeId).Run history final) :
    EarningsAgree nodeId (creditedBetween history nodeId) final.tx.store
      final.query := by
  induction run with
  | start => rfl
  | @next history before after event run taken ih =>
      obtain ⟨writes, reached⟩ := exists_tx_run run
      rw [creditedBetween_concat]
      rcases stepEarnings_cases taken with ⟨write, rfl, written, query⟩ |
        ⟨succeeds, rfl, waiting, same, query⟩ |
        ⟨succeeds, total, rfl, totalled, same, query⟩
      · rw [query]
        exact earningsAgree_write (isolated_run reached) ih written
      · have quiet : before.credits nodeId (.queryTotal succeeds) = 0 := rfl
        rw [waiting] at ih
        rw [query, same, ih, quiet, add_zero]
        cases succeeds with
        | false => trivial
        | true =>
            have cached := (balances_committed reached).getD nodeId
            rw [if_pos rfl, EarningsAgree, cached, add_zero]
      · have quiet : before.credits nodeId (.queryEntries succeeds) = 0 := rfl
        rw [totalled] at ih
        rw [query, quiet, add_zero]
        cases succeeds with
        | false => trivial
        | true => exact ih.trans sum_entries.symm

/-- `admin_node_earnings` is consistent exactly when nothing is credited between
its two queries, or nothing on balance. -/
theorem consistent_iff
    (run : (adminNodeEarnings rfc3339 tables nodeId).Run history final)
    (responded : final.query = .responded (some response)) :
    response.Consistent ↔ creditedBetween history nodeId = 0 := by
  have agree := earningsAgree_run run
  rw [responded, EarningsAgree] at agree
  rw [NodeEarnings.Consistent, ← agree, left_eq_add]

def EarningsQuery.answer? : EarningsQuery → Option NodeEarnings
  | .responded answer => answer
  | _ => none

theorem exists_response {query : EarningsQuery} {observed : NodeEarnings → Bool}
    (answered : query.answer?.any observed = true) :
    ∃ response, query = .responded (some response) ∧
      observed response = true := by
  cases query with
  | waiting => cases answered
  | totalled total => cases answered
  | responded answer =>
      cases answer with
      | none => cases answered
      | some response => exact ⟨response, rfl, answered⟩

/-- A credit that is under way between the queries, but commits after them. -/
theorem consistent_iff_uncommitted :
    ∃ history final response,
      (adminNodeEarnings toString oneNode "node").Run history final ∧
      final.query = .responded (some response) ∧
      (response.Consistent ↔ creditedBetween history "node" = 0) ∧
      response.totalPoints = 2 := by
  obtain ⟨history, final, run, observed⟩ :=
    (adminNodeEarnings toString oneNode "node").exists_run_of_trace
      [.write (.start (1, .creditPoints "node" "delivery" 2 "r")),
        .write (.execute 0), .write (.execute 0), .write (.commit 0),
        .write (.start (2, .creditPoints "node" "capacity" 3 "s")),
        .queryTotal true, .write (.execute 1), .write (.execute 1),
        .queryEntries true, .write (.commit 1)]
      (fun outcome => outcome.2.query.answer?.any
        fun response => response.totalPoints = 2)
      (by decide +kernel)
  obtain ⟨response, responded, total⟩ := exists_response observed
  exact ⟨history, final, response, run, responded,
    consistent_iff run responded, of_decide_eq_true total⟩

/-- A credit commits between the queries: its entry is listed, its points are
not in the total. -/
theorem total_misses_entry :
    ∃ history final response,
      (adminNodeEarnings toString oneNode "node").Run history final ∧
      final.query = .responded (some response) ∧ ¬ response.Consistent := by
  obtain ⟨history, final, run, observed⟩ :=
    (adminNodeEarnings toString oneNode "node").exists_run_of_trace
      [.write (.start (1, .creditPoints "node" "delivery" 2 "r")),
        .queryTotal true, .write (.execute 0), .write (.execute 0),
        .write (.commit 0), .queryEntries true]
      (fun outcome => outcome.2.query.answer?.any
        fun response => response.totalPoints = 0 ∧
          response.entries.map LedgerEntry.points = [2])
      (by decide +kernel)
  obtain ⟨response, responded, observed⟩ := exists_response observed
  obtain ⟨total, entries⟩ := of_decide_eq_true observed
  refine ⟨history, final, response, run, responded, fun consistent => ?_⟩
  rw [NodeEarnings.Consistent, total, entries] at consistent
  exact absurd consistent (by decide +kernel)

end JwSwarm.FleetManager
