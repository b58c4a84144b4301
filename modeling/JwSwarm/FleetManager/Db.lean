import Mathlib.Algebra.Order.Field.Rat
import Mathlib.Data.List.MinMax
import Mathlib.Data.String.Basic
import JwSwarm.Data.Calendar
import JwSwarm.Data.ListSet
import JwSwarm.FleetManager.Registry

namespace JwSwarm.FleetManager

open Data Proto

/-! The tables the tunnel writes and the calls that write them. Timestamps are
clock readings in milliseconds; a call that violates a foreign key, or that the
engine refuses, has no result. -/

/-- The engine that the pool opens. An `UPDATE` with `ORDER BY` and `LIMIT` is a
syntax error unless SQLite was compiled to take it. -/
structure Sqlite where
  limitsUpdates : Bool

def Sqlite.bundled : Sqlite where
  limitsUpdates := false

structure NodeRow where
  nodeId : NodeId
  hostname : String
  os : OsKind
  gpuVendor : GpuVendor
  gpuName : String
  gpuVramMb : Int64
  firstSeen : ℕ
  lastSeen : ℕ

structure SessionRow where
  nodeId : NodeId
  connectedAt : ℕ
  disconnectedAt : Option ℕ := none
  awakeSeconds : ℚ := 0
  gpuPowerPct : ℚ
  vramMb : ℚ

structure DeliveryRow where
  requestId : RequestId
  nodeId : NodeId
  modelAlias : ModelId
  promptTokens : ℕ
  completionTokens : ℕ
  latencyMs : ℚ
  deliveredAt : ℕ

structure LedgerRow where
  nodeId : NodeId
  kind : String
  points : ℚ
  sourceRef : String
  createdAt : ℕ

structure Db where
  sqlite : Sqlite := .bundled
  nodes : List NodeRow := []
  sessions : List SessionRow := []
  deliveries : List DeliveryRow := []
  pointsLedger : List LedgerRow := []
  nodeBalances : AList fun _ : NodeId => ℚ := ∅

inductive DbCall where
  | upsertNode (register : Register)
  | openSession (nodeId : NodeId) (gpuPowerPct vramMb : ℚ)
  | closeSession (nodeId : NodeId)
  | touchSessionAwake (nodeId : NodeId) (awakeSecondsDelta : ℚ)
  | recordDelivery (requestId : RequestId) (nodeId : NodeId) (model : ModelId)
      (usage : Usage) (latencyMs : ℚ)
  | creditPoints (nodeId : NodeId) (kind : String) (points : ℚ)
      (sourceRef : String)

namespace DbCall

def opens (nodeId : NodeId) : DbCall → Bool
  | .openSession other _ _ => other == nodeId
  | _ => false

def closes (nodeId : NodeId) : DbCall → Bool
  | .closeSession other => other == nodeId
  | _ => false

end DbCall

namespace Db

def hasNode (db : Db) (nodeId : NodeId) : Bool :=
  db.nodes.any fun row => row.nodeId == nodeId

/-- The conflict branch keeps `first_seen` and overwrites the rest. -/
def upsertNode (db : Db) (now : ℕ) (register : Register) : Db :=
  let row : NodeRow := {
    nodeId := register.nodeId
    hostname := register.hostname
    os := register.os
    gpuVendor := register.gpu.vendor
    gpuName := register.gpu.name
    gpuVramMb := register.gpu.vramMb.toInt64
    firstSeen := now
    lastSeen := now }
  if db.hasNode register.nodeId then
    { db with
      nodes := db.nodes.map fun old =>
        if old.nodeId == register.nodeId then
          { row with firstSeen := old.firstSeen }
        else old }
  else { db with nodes := db.nodes ++ [row] }

def openSession (db : Db) (now : ℕ) (nodeId : NodeId)
    (gpuPowerPct vramMb : ℚ) : Option Db :=
  if db.hasNode nodeId then
    some { db with
      sessions := db.sessions ++
        [{ nodeId, connectedAt := now, gpuPowerPct, vramMb }] }
  else none

/-- A row with `node_id = ?` and `disconnected_at IS NULL`. -/
def isOpenFor (nodeId : NodeId) (row : SessionRow) : Bool :=
  row.nodeId == nodeId && row.disconnectedAt.isNone

/-- The text that the column holds, which SQLite orders as text. -/
def connectedAtText (row : SessionRow) : String :=
  (Calendar.formatRfc3339 (row.connectedAt * 1000000)).getD ""

/-- `ORDER BY connected_at DESC LIMIT 1` among the open rows of the node. -/
def latestOpenSession (sessions : List SessionRow) (nodeId : NodeId) :
    Option ℕ :=
  sessions.findIdx? fun row =>
    isOpenFor nodeId row && sessions.all fun other =>
      !isOpenFor nodeId other || connectedAtText other ≤ connectedAtText row

def changeLatestOpenSession (db : Db) (nodeId : NodeId)
    (change : SessionRow → SessionRow) : Db :=
  match latestOpenSession db.sessions nodeId with
  | some index => { db with sessions := db.sessions.modify index change }
  | none => db

def updateLatestOpenSession (db : Db) (nodeId : NodeId)
    (change : SessionRow → SessionRow) : Option Db :=
  if db.sqlite.limitsUpdates then
    some (db.changeLatestOpenSession nodeId change)
  else none

def closeSession (db : Db) (now : ℕ) (nodeId : NodeId) : Option Db :=
  db.updateLatestOpenSession nodeId fun row =>
    { row with disconnectedAt := some now }

def touchSessionAwake (db : Db) (nodeId : NodeId) (awakeSecondsDelta : ℚ) :
    Option Db :=
  db.updateLatestOpenSession nodeId fun row =>
    { row with awakeSeconds := row.awakeSeconds + awakeSecondsDelta }

def recordDelivery (db : Db) (now : ℕ) (requestId : RequestId)
    (nodeId : NodeId) (model : ModelId) (usage : Usage) (latencyMs : ℚ) :
    Option Db :=
  if db.hasNode nodeId then
    some { db with
      deliveries := db.deliveries ++ [{
        requestId
        nodeId
        modelAlias := model
        promptTokens := usage.promptTokens.toNat
        completionTokens := usage.completionTokens.toNat
        latencyMs
        deliveredAt := now }] }
  else none

/-- One transaction: the ledger insert and the balance upsert commit together. -/
def creditPoints (db : Db) (now : ℕ) (nodeId : NodeId) (kind : String)
    (points : ℚ) (sourceRef : String) : Option Db :=
  if db.hasNode nodeId then
    some { db with
      pointsLedger := db.pointsLedger ++
        [{ nodeId, kind, points, sourceRef, createdAt := now }]
      nodeBalances := db.nodeBalances.insert nodeId
        ((db.nodeBalances.lookup nodeId).getD 0 + points) }
  else none

def exec (db : Db) (now : ℕ) : DbCall → Option Db
  | .upsertNode register => some (db.upsertNode now register)
  | .openSession nodeId gpuPowerPct vramMb =>
      db.openSession now nodeId gpuPowerPct vramMb
  | .closeSession nodeId => db.closeSession now nodeId
  | .touchSessionAwake nodeId delta => db.touchSessionAwake nodeId delta
  | .recordDelivery requestId nodeId model usage latencyMs =>
      db.recordDelivery now requestId nodeId model usage latencyMs
  | .creditPoints nodeId kind points sourceRef =>
      db.creditPoints now nodeId kind points sourceRef

/-- A call that returns an error leaves the database as it was. -/
def attempt (db : Db) (now : ℕ) (call : DbCall) (succeeds : Bool) :
    Option Db :=
  if succeeds then db.exec now call else some db

variable {db next : Db} {now : ℕ} {call : DbCall}

theorem updateLatestOpenSession_cases {nodeId : NodeId}
    {change : SessionRow → SessionRow}
    (executed : db.updateLatestOpenSession nodeId change = some next) :
    db.sqlite.limitsUpdates = true ∧
      next = db.changeLatestOpenSession nodeId change := by
  unfold updateLatestOpenSession at executed
  split at executed
  · next accepts => exact ⟨accepts, (Option.some.inj executed).symm⟩
  · cases executed

private theorem changeLatestOpenSession_eq (db : Db) (nodeId : NodeId)
    (change : SessionRow → SessionRow) :
    db.changeLatestOpenSession nodeId change =
      { db with
        sessions := (db.changeLatestOpenSession nodeId change).sessions } := by
  unfold changeLatestOpenSession
  split <;> rfl

theorem updateLatestOpenSession_eq {nodeId : NodeId}
    {change : SessionRow → SessionRow}
    (executed : db.updateLatestOpenSession nodeId change = some next) :
    next = { db with sessions := next.sessions } := by
  obtain ⟨-, rfl⟩ := updateLatestOpenSession_cases executed
  exact changeLatestOpenSession_eq db nodeId change

theorem upsertNode_eq (db : Db) (now : ℕ) (register : Register) :
    db.upsertNode now register =
      { db with nodes := (db.upsertNode now register).nodes } := by
  unfold upsertNode
  simp only
  split <;> rfl

theorem openSession_cases {nodeId : NodeId} {gpuPowerPct vramMb : ℚ}
    (executed : db.openSession now nodeId gpuPowerPct vramMb = some next) :
    next = { db with
      sessions := db.sessions ++
        [{ nodeId, connectedAt := now, gpuPowerPct, vramMb }] } := by
  unfold openSession at executed
  split at executed
  · exact (Option.some.inj executed).symm
  · cases executed

theorem recordDelivery_cases {requestId : RequestId} {nodeId : NodeId}
    {model : ModelId} {usage : Usage} {latencyMs : ℚ}
    (executed : db.recordDelivery now requestId nodeId model usage latencyMs =
      some next) :
    next = { db with
      deliveries := db.deliveries ++ [{
        requestId
        nodeId
        modelAlias := model
        promptTokens := usage.promptTokens.toNat
        completionTokens := usage.completionTokens.toNat
        latencyMs
        deliveredAt := now }] } := by
  unfold recordDelivery at executed
  split at executed
  · exact (Option.some.inj executed).symm
  · cases executed

theorem creditPoints_cases {nodeId : NodeId} {kind : String} {points : ℚ}
    {sourceRef : String}
    (executed : db.creditPoints now nodeId kind points sourceRef = some next) :
    next = { db with
      pointsLedger := db.pointsLedger ++
        [{ nodeId, kind, points, sourceRef, createdAt := now }]
      nodeBalances := db.nodeBalances.insert nodeId
        ((db.nodeBalances.lookup nodeId).getD 0 + points) } := by
  unfold creditPoints at executed
  split at executed
  · exact (Option.some.inj executed).symm
  · cases executed

def deliveryRows (now : ℕ) : DbCall → List DeliveryRow
  | .recordDelivery requestId nodeId model usage latencyMs =>
      [{ requestId
         nodeId
         modelAlias := model
         promptTokens := usage.promptTokens.toNat
         completionTokens := usage.completionTokens.toNat
         latencyMs
         deliveredAt := now }]
  | _ => []

def ledgerRows (now : ℕ) : DbCall → List LedgerRow
  | .creditPoints nodeId kind points sourceRef =>
      [{ nodeId, kind, points, sourceRef, createdAt := now }]
  | _ => []

theorem rows_exec (executed : db.exec now call = some next) :
    next.deliveries = db.deliveries ++ deliveryRows now call ∧
      next.pointsLedger = db.pointsLedger ++ ledgerRows now call := by
  cases call with
  | upsertNode register =>
      obtain rfl := Option.some.inj executed
      rw [upsertNode_eq]
      simp [deliveryRows, ledgerRows]
  | openSession nodeId gpuPowerPct vramMb =>
      rw [openSession_cases executed]
      simp [deliveryRows, ledgerRows]
  | closeSession nodeId =>
      rw [updateLatestOpenSession_eq executed]
      simp [deliveryRows, ledgerRows]
  | touchSessionAwake nodeId delta =>
      rw [updateLatestOpenSession_eq executed]
      simp [deliveryRows, ledgerRows]
  | recordDelivery requestId nodeId model usage latencyMs =>
      rw [recordDelivery_cases executed]
      simp [deliveryRows, ledgerRows]
  | creditPoints nodeId kind points sourceRef =>
      rw [creditPoints_cases executed]
      simp [deliveryRows, ledgerRows]

def openRows (nodeId : NodeId) (db : Db) : ℕ :=
  db.sessions.countP (isOpenFor nodeId)

private theorem isOpenFor_opened {nodeId other : NodeId}
    {gpuPowerPct vramMb : ℚ} :
    isOpenFor nodeId { nodeId := other, connectedAt := now, gpuPowerPct, vramMb }
      = (other == nodeId) := by
  simp [isOpenFor]

theorem isOpenFor_latest {sessions : List SessionRow} {nodeId : NodeId}
    {index : ℕ} (latest : latestOpenSession sessions nodeId = some index) :
    ∃ row, sessions[index]? = some row ∧ isOpenFor nodeId row = true := by
  obtain ⟨inside, chosen, -⟩ :=
    List.findIdx?_eq_some_iff_getElem.mp latest
  refine ⟨sessions[index], List.getElem?_eq_getElem inside, ?_⟩
  exact ((Bool.and_eq_true _ _).mp chosen).1

private theorem latestOpenSession_isSome {sessions : List SessionRow}
    {nodeId : NodeId} :
    (latestOpenSession sessions nodeId).isSome =
      sessions.any (isOpenFor nodeId) := by
  rw [latestOpenSession, List.findIdx?_isSome]
  cases found : sessions.any (isOpenFor nodeId) with
  | false =>
      rw [List.any_eq_false] at found ⊢
      intro row inside chosen
      exact found row inside ((Bool.and_eq_true _ _).mp chosen).1
  | true =>
      obtain ⟨row, inside, isOpen⟩ := List.any_eq_true.mp found
      have member : row ∈ sessions.filter (isOpenFor nodeId) :=
        List.mem_filter.mpr ⟨inside, isOpen⟩
      cases greatest :
          (sessions.filter (isOpenFor nodeId)).argmax connectedAtText with
      | none =>
          rw [List.argmax_eq_none.mp greatest] at member
          cases member
      | some latest =>
          obtain ⟨latestInside, latestOpen⟩ :=
            List.mem_filter.mp (List.argmax_mem greatest)
          refine List.any_eq_true.mpr ⟨latest, latestInside, ?_⟩
          rw [latestOpen, Bool.true_and, List.all_eq_true]
          intro other otherInside
          cases otherOpen : isOpenFor nodeId other with
          | false => rfl
          | true =>
              have atMost := List.le_of_mem_argmax
                (List.mem_filter.mpr ⟨otherInside, otherOpen⟩) greatest
              simpa using atMost

theorem openRows_change (other : NodeId) {nodeId : NodeId}
    (change : SessionRow → SessionRow) {index : ℕ} {row : SessionRow}
    (latest : latestOpenSession db.sessions nodeId = some index)
    (found : db.sessions[index]? = some row) :
    (db.changeLatestOpenSession nodeId change).openRows other +
        (if isOpenFor other row then 1 else 0) =
      db.openRows other + if isOpenFor other (change row) then 1 else 0 := by
  have changed : (db.changeLatestOpenSession nodeId change).sessions =
      db.sessions.set index (change row) := by
    rw [changeLatestOpenSession, latest]
    simp [List.modify_eq_set_getElem?, found]
  rw [openRows, changed, openRows]
  exact countP_set_add (isOpenFor other) found

private theorem isOpenFor_of_isOpenFor {nodeId : NodeId} {row : SessionRow}
    (isOpen : isOpenFor nodeId row = true) (other : NodeId) :
    isOpenFor other row = (nodeId == other) := by
  obtain ⟨same, unclosed⟩ := (Bool.and_eq_true _ _).mp isOpen
  rw [isOpenFor, unclosed, eq_of_beq same, Bool.and_true]

private theorem openRows_closeSession {nodeId : NodeId} (other : NodeId)
    (executed : db.closeSession now nodeId = some next) :
    next.openRows other +
        (if nodeId == other && db.sessions.any (isOpenFor nodeId) then 1
          else 0) =
      db.openRows other := by
  obtain ⟨-, rfl⟩ := updateLatestOpenSession_cases executed
  rw [← latestOpenSession_isSome]
  cases latest : latestOpenSession db.sessions nodeId with
  | none =>
      rw [changeLatestOpenSession, latest]
      simp
  | some index =>
      obtain ⟨row, found, isOpen⟩ := isOpenFor_latest latest
      have counted := openRows_change other
        (fun row => { row with disconnectedAt := some now }) latest found
      rw [isOpenFor_of_isOpenFor isOpen] at counted
      simpa [isOpenFor] using counted

private theorem openRows_touchSessionAwake {nodeId : NodeId} (other : NodeId)
    {delta : ℚ} (executed : db.touchSessionAwake nodeId delta = some next) :
    next.openRows other = db.openRows other := by
  obtain ⟨-, rfl⟩ := updateLatestOpenSession_cases executed
  cases latest : latestOpenSession db.sessions nodeId with
  | none => rw [changeLatestOpenSession, latest]
  | some index =>
      obtain ⟨row, found, -⟩ := isOpenFor_latest latest
      have counted := openRows_change other
        (fun row => { row with awakeSeconds := row.awakeSeconds + delta })
        latest found
      exact Nat.add_right_cancel counted

theorem openRows_exec (nodeId : NodeId)
    (executed : db.exec now call = some next) :
    next.openRows nodeId +
        (if call.closes nodeId && db.sessions.any (isOpenFor nodeId) then 1
          else 0) =
      db.openRows nodeId + if call.opens nodeId then 1 else 0 := by
  cases call with
  | upsertNode register =>
      obtain rfl := Option.some.inj executed
      rw [upsertNode_eq]
      rfl
  | openSession other gpuPowerPct vramMb =>
      rw [openSession_cases executed]
      simp [openRows, List.countP_append, isOpenFor_opened, DbCall.opens,
        DbCall.closes]
  | closeSession other =>
      have closed := openRows_closeSession nodeId executed
      by_cases same : other = nodeId
      · subst same
        exact closed
      · simpa [DbCall.closes, DbCall.opens, same] using closed
  | touchSessionAwake other delta =>
      exact openRows_touchSessionAwake nodeId executed
  | recordDelivery requestId other model usage latencyMs =>
      rw [recordDelivery_cases executed]
      rfl
  | creditPoints other kind points sourceRef =>
      rw [creditPoints_cases executed]
      rfl

end Db

end JwSwarm.FleetManager
