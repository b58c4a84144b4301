import JwSwarm.FleetManager.Tasks
import JwSwarm.Transition.Transactions

namespace JwSwarm.FleetManager

open Data Proto Transition Machine

/-! The points ledger and the balances, statement by statement: `credit_points`
writes both tables in one transaction, every other call is one statement that
commits by itself. -/

namespace Db

def insertLedger (now : ℕ) (nodeId : NodeId) (kind : String) (points : ℚ)
    (sourceRef : String) (db : Db) : Option Db :=
  if db.hasNode nodeId then
    some { db with
      pointsLedger := db.pointsLedger ++
        [{ nodeId, kind, points, sourceRef, createdAt := now }] }
  else none

/-- The insert branch starts a balance, the conflict branch adds to it. -/
def upsertBalance (nodeId : NodeId) (points : ℚ) (db : Db) : Option Db :=
  if db.hasNode nodeId then
    match db.nodeBalances.lookup nodeId with
    | none =>
        some { db with nodeBalances := db.nodeBalances.insert nodeId points }
    | some total =>
        some { db with
          nodeBalances := db.nodeBalances.insert nodeId (total + points) }
  else none

end Db

def dbStatements (call : ℕ × DbCall) : List (Db → Option Db) :=
  match call.2 with
  | .creditPoints nodeId kind points sourceRef =>
      [Db.insertLedger call.1 nodeId kind points sourceRef,
        Db.upsertBalance nodeId points]
  | other => [fun db => db.exec call.1 other]

def ledgerTotal (db : Db) (nodeId : NodeId) : ℚ :=
  ((db.pointsLedger.filter fun row => row.nodeId == nodeId).map
    LedgerRow.points).sum

/-- Every balance is the sum of the node's ledger rows, and a node without a
balance has none. -/
structure BalancesEqualLedger (db : Db) : Prop where
  total : ∀ nodeId total, db.nodeBalances.lookup nodeId = some total →
    total = ledgerTotal db nodeId
  absent : ∀ nodeId, db.nodeBalances.lookup nodeId = none →
    ∀ row ∈ db.pointsLedger, row.nodeId ≠ nodeId

def uncredited (tables : Db) : Db :=
  { tables with pointsLedger := [], nodeBalances := ∅ }

def oneNode : Db where
  nodes := [{
    nodeId := "node", hostname := "host", os := .linux
    gpuVendor := .nvidia, gpuName := "gpu", gpuVramMb := 0
    firstSeen := 0, lastSeen := 0 }]

variable {db next : Db} {now : ℕ} {call : DbCall}

theorem balances_uncredited (tables : Db) :
    BalancesEqualLedger (uncredited tables) where
  total nodeId total found := by cases found
  absent nodeId missing row inside := by cases inside

theorem runAll_dbStatements :
    runAll (dbStatements (now, call)) db = db.exec now call := by
  cases call with
  | creditPoints nodeId kind points sourceRef =>
      simp only [dbStatements, runAll, Option.bind_fun_some, Db.exec,
        Db.creditPoints, Db.insertLedger]
      split
      · next known =>
          have known : Db.hasNode { db with
              pointsLedger := db.pointsLedger ++
                [{ nodeId, kind, points, sourceRef, createdAt := now }] }
              nodeId = true := known
          rw [Option.bind_some, Db.upsertBalance, if_pos known]
          cases balance : db.nodeBalances.lookup nodeId with
          | none => simp
          | some total => simp
      · rfl
  | _ => exact Option.bind_fun_some _

theorem ledgerTotal_append (db : Db) (row : LedgerRow) (nodeId : NodeId) :
    ledgerTotal { db with pointsLedger := db.pointsLedger ++ [row] } nodeId =
      ledgerTotal db nodeId + if row.nodeId = nodeId then row.points else 0 := by
  unfold ledgerTotal
  rw [List.filter_append, List.map_append, List.sum_append]
  apply congrArg
  by_cases same : row.nodeId = nodeId
  · simp [same]
  · simp [same]

private theorem ledgerTotal_eq_zero {nodeId : NodeId}
    (absent : ∀ row ∈ db.pointsLedger, row.nodeId ≠ nodeId) :
    ledgerTotal db nodeId = 0 := by
  rw [ledgerTotal, List.filter_eq_nil_iff.mpr]
  · rfl
  · intro row inside same
    exact absent row inside (eq_of_beq same)

theorem BalancesEqualLedger.getD (balances : BalancesEqualLedger db)
    (nodeId : NodeId) :
    (db.nodeBalances.lookup nodeId).getD 0 = ledgerTotal db nodeId := by
  cases found : db.nodeBalances.lookup nodeId with
  | none => exact (ledgerTotal_eq_zero (balances.absent nodeId found)).symm
  | some total => exact balances.total nodeId total found

private theorem balances_creditPoints (balances : BalancesEqualLedger db)
    {nodeId : NodeId} {kind : String} {points : ℚ} {sourceRef : String}
    (executed : db.creditPoints now nodeId kind points sourceRef = some next) :
    BalancesEqualLedger next := by
  obtain rfl := Db.creditPoints_cases executed
  constructor
  · intro other total found
    have written := ledgerTotal_append db
      { nodeId, kind, points, sourceRef, createdAt := now } other
    refine Eq.trans ?_ written.symm
    rw [lookup_insert_apply] at found
    by_cases same : other = nodeId
    · subst same
      rw [if_pos rfl] at found
      rw [if_pos rfl, ← balances.getD other]
      exact (Option.some.inj found).symm
    · rw [if_neg same] at found
      rw [if_neg (Ne.symm same), add_zero]
      exact balances.total other total found
  · intro other missing row inside
    rw [lookup_insert_apply] at missing
    split at missing
    · cases missing
    · next different =>
        rcases List.mem_append.mp inside with old | new
        · exact balances.absent other missing row old
        · obtain rfl := List.mem_singleton.mp new
          exact Ne.symm different

theorem balances_exec (balances : BalancesEqualLedger db)
    (executed : db.exec now call = some next) : BalancesEqualLedger next := by
  cases call with
  | creditPoints nodeId kind points sourceRef =>
      exact balances_creditPoints balances executed
  | upsertNode register =>
      obtain rfl := Option.some.inj executed
      rw [Db.upsertNode_eq]
      exact ⟨balances.total, balances.absent⟩
  | openSession nodeId gpuPowerPct vramMb =>
      rw [Db.openSession_cases executed]
      exact ⟨balances.total, balances.absent⟩
  | closeSession nodeId =>
      rw [Db.updateLatestOpenSession_eq executed]
      exact ⟨balances.total, balances.absent⟩
  | touchSessionAwake nodeId delta =>
      rw [Db.updateLatestOpenSession_eq executed]
      exact ⟨balances.total, balances.absent⟩
  | recordDelivery requestId nodeId model usage latencyMs =>
      rw [Db.recordDelivery_cases executed]
      exact ⟨balances.total, balances.absent⟩

section Transactions

variable {tables : Db}
variable {history : History (TxState Db (ℕ × DbCall)) (TxEvent (ℕ × DbCall))}
variable {final : TxState Db (ℕ × DbCall)}

/-- Whatever is interleaved and whatever fails, every committed state's balances
equal its ledger. -/
theorem balances_committed
    (run : (transactional dbStatements (uncredited tables)).Run history final) :
    BalancesEqualLedger final.store := by
  refine store_invariant ?_ (balances_uncredited tables) run
  intro call store next balances ran
  rw [← Prod.eta call, runAll_dbStatements] at ran
  exact balances_exec balances ran

/-- Two calls race for one node; one of them fails after its ledger insert. -/
theorem balances_committed_race :
    ∃ history final,
      (transactional dbStatements (uncredited { nodes := [{
          nodeId := "node", hostname := "host", os := .linux
          gpuVendor := .nvidia, gpuName := "gpu", gpuVramMb := 0
          firstSeen := 0, lastSeen := 0 }] })).Run history final ∧
      final.store.nodeBalances.lookup "node" = some 5 ∧
      BalancesEqualLedger final.store := by
  obtain ⟨history, final, run, observed⟩ :=
    (transactional dbStatements (uncredited { nodes := [{
        nodeId := "node", hostname := "host", os := .linux
        gpuVendor := .nvidia, gpuName := "gpu", gpuVramMb := 0
        firstSeen := 0, lastSeen := 0 }] })).exists_run_of_trace
      [.start (1, .creditPoints "node" "delivery" 2 "r"),
        .start (2, .creditPoints "node" "capacity" 3 "s"),
        .start (3, .creditPoints "node" "capacity" 7 "t"),
        .execute 0, .execute 0, .commit 0, .execute 2, .fail 2,
        .execute 1, .execute 1, .commit 1]
      (fun outcome => outcome.2.store.nodeBalances.lookup "node" = some 5)
      (by decide +kernel)
  exact ⟨history, final, run, of_decide_eq_true observed,
    balances_committed run⟩

end Transactions

theorem balances_attempt (balances : BalancesEqualLedger db) {succeeds : Bool}
    (attempted : db.attempt now call succeeds = some next) :
    BalancesEqualLedger next := by
  unfold Db.attempt at attempted
  split at attempted
  · exact balances_exec balances attempted
  · obtain rfl := Option.some.inj attempted
    exact balances

theorem balances_run {app : AppState} {base : Db}
    {history : History FleetState Event} {final : FleetState}
    (balances : BalancesEqualLedger base)
    (run : (fleetManagerOn app base).Run history final) :
    BalancesEqualLedger final.db := by
  induction run with
  | start => exact balances
  | next run taken ih =>
      cases db_step taken with
      | spawn db tasks other => rw [db]; exact ih
      | run call rest task succeeds same found db tasks =>
          exact balances_attempt ih db
      | resume credit tunnel task succeeds same found awaited db tasks =>
          exact balances_attempt ih db

end JwSwarm.FleetManager
