import JwSwarm.FleetManager.Balances

namespace JwSwarm.FleetManager

open Data Proto Transition Machine

/-! The writes of a credited `Done`, database call by database call. Each of
them can fail, by itself or for a missing node. -/

structure CreditOutcomes where
  begins : Bool
  ledger : Bool
  balance : Bool
  commits : Bool

def CreditOutcomes.all (outcomes : CreditOutcomes) : Bool :=
  outcomes.begins && outcomes.ledger && outcomes.balance && outcomes.commits

structure DeliveryOutcomes where
  record : Bool
  credit : CreditOutcomes

namespace Db

/-- A failed call returns early, which drops the transaction and rolls it
back. -/
def creditPointsBy (outcomes : CreditOutcomes) (now : ℕ) (nodeId : NodeId)
    (kind : String) (points : ℚ) (sourceRef : String) (db : Db) :
    Option Db := do
  guard outcomes.begins
  guard outcomes.ledger
  let written ← db.insertLedger now nodeId kind points sourceRef
  guard outcomes.balance
  let raised ← written.upsertBalance nodeId points
  guard outcomes.commits
  return raised

def commitAll (others : List (ℕ × DbCall)) (db : Db) : Db :=
  others.foldl (fun db call => (db.exec call.1 call.2).getD db) db

def balance (db : Db) (nodeId : NodeId) : ℚ :=
  (db.nodeBalances.lookup nodeId).getD 0

end Db

structure Delivery where
  requestId : RequestId
  nodeId : NodeId
  model : ModelId
  usage : Usage
  latencyMs : ℚ
  points : ℚ

namespace Delivery

def recorded (delivery : Delivery) : DbCall :=
  .recordDelivery delivery.requestId delivery.nodeId delivery.model
    delivery.usage delivery.latencyMs

def credited (delivery : Delivery) : DbCall :=
  .creditPoints delivery.nodeId "delivery" delivery.points delivery.requestId

def ofDone (app : AppState) (registry : Registry) (session : Option Session)
    (done : Done) (request : PendingMeta) : Delivery where
  requestId := done.requestId
  nodeId := request.nodeId
  model := request.model
  usage := done.usage
  latencyMs := recordedLatency registry request.nodeId
  points := app.accounting.deliveryPoints done.usage
    ((session.bind fun own => own.paramsByModel.lookup request.model).getD 7)

/-- The task makes the second call whatever became of the first, and drops
both results. `others` commit in between. -/
def write (delivery : Delivery) (outcomes : DeliveryOutcomes)
    (recordedAt creditedAt : ℕ) (others : List (ℕ × DbCall)) (db : Db) : Db :=
  let recorded := (do
    guard outcomes.record
    db.exec recordedAt delivery.recorded).getD db
  let shared := recorded.commitAll others
  (shared.creditPointsBy outcomes.credit creditedAt delivery.nodeId "delivery"
    delivery.points delivery.requestId).getD shared

end Delivery

structure Gained (nodeId : NodeId) (rows : List DeliveryRow)
    (entries : List LedgerRow) (raised : ℚ) (alone after : Db) : Prop where
  deliveries : after.deliveries.Perm (rows ++ alone.deliveries)
  ledger : after.pointsLedger.Perm (entries ++ alone.pointsLedger)
  balance : ∀ other, after.balance other =
    alone.balance other + if other = nodeId then raised else 0

/-- The delivery's row, its ledger entry and its balance are all there, or none
of them is. -/
def AllOrNothing (delivery : Delivery) (recordedAt creditedAt : ℕ)
    (alone after : Db) : Prop :=
  Gained delivery.nodeId (Db.deliveryRows recordedAt delivery.recorded)
      (Db.ledgerRows creditedAt delivery.credited) delivery.points alone after ∨
    Gained delivery.nodeId [] [] 0 alone after

variable {app : AppState} {registry : Registry} {session : Option Session}
variable {done : Done} {request : PendingMeta}
variable {delivery : Delivery} {outcomes : DeliveryOutcomes}
variable {recordedAt creditedAt now : ℕ} {others : List (ℕ × DbCall)}
variable {db alone after : Db} {call : DbCall} {nodeId : NodeId}

private theorem task_handleDone
    (pending : registry.getPending done.requestId = some request) :
    (handleDone app registry session done).spawned =
      [[(Delivery.ofDone app registry session done request).recorded,
        (Delivery.ofDone app registry session done request).credited]] := by
  rw [handleDone, pending]
  rfl

theorem creditPointsBy_eq (outcomes : CreditOutcomes) (kind : String)
    (points : ℚ) (sourceRef : String) :
    db.creditPointsBy outcomes now nodeId kind points sourceRef =
      if outcomes.all then
        db.exec now (.creditPoints nodeId kind points sourceRef)
      else none := by
  obtain ⟨begins, ledger, balance, commits⟩ := outcomes
  cases begins with
  | false => rfl
  | true =>
      cases ledger with
      | false => rfl
      | true =>
          cases balance with
          | false => exact Option.bind_fun_none _
          | true =>
              cases commits with
              | false =>
                  have dropped (written : Db) :
                      (written.upsertBalance nodeId points).bind
                        (fun _ => (none : Option Db)) = none :=
                    Option.bind_fun_none _
                  exact (congrArg (Option.bind _) (funext dropped)).trans
                    (Option.bind_fun_none _)
              | true =>
                  have whole := @runAll_dbStatements db now
                    (.creditPoints nodeId kind points sourceRef)
                  exact Eq.trans rfl whole

private theorem updateLatestOpenSession_deliveries
    {deliveries : List DeliveryRow} (change : SessionRow → SessionRow) :
    Db.updateLatestOpenSession { db with deliveries } nodeId change =
      (db.updateLatestOpenSession nodeId change).map fun next =>
        { next with deliveries := deliveries ++ [] } := by
  rw [List.append_nil]
  unfold Db.updateLatestOpenSession Db.changeLatestOpenSession
  cases db.sqlite.limitsUpdates with
  | false => rfl
  | true => cases Db.latestOpenSession db.sessions nodeId <;> rfl

private theorem exec_deliveries (deliveries : List DeliveryRow) :
    Db.exec { db with deliveries } now call =
      (db.exec now call).map fun next =>
        { next with deliveries := deliveries ++ Db.deliveryRows now call } := by
  cases call with
  | upsertNode register =>
      simp only [Db.exec, Db.upsertNode, Db.hasNode, Option.map_some,
        Db.deliveryRows, List.append_nil]
      split <;> rfl
  | openSession other gpuPowerPct vramMb =>
      simp only [Db.exec, Db.openSession, Db.deliveryRows, List.append_nil]
      rw [apply_ite (Option.map _)]
      rfl
  | closeSession other => exact updateLatestOpenSession_deliveries _
  | touchSessionAwake other delta => exact updateLatestOpenSession_deliveries _
  | recordDelivery requestId other model usage latencyMs =>
      simp only [Db.exec, Db.recordDelivery, Db.deliveryRows]
      rw [apply_ite (Option.map _)]
      rfl
  | creditPoints other kind points sourceRef =>
      simp only [Db.exec, Db.creditPoints, Db.deliveryRows, List.append_nil]
      rw [apply_ite (Option.map _)]
      rfl

/-- Other calls commit the same whether the delivery has its row or not. -/
theorem commitAll_deliveries {rows deliveries : List DeliveryRow}
    (more : deliveries.Perm (rows ++ db.deliveries)) :
    ∃ later, Db.commitAll others { db with deliveries } =
        { db.commitAll others with deliveries := later } ∧
      later.Perm (rows ++ (db.commitAll others).deliveries) := by
  induction others generalizing db deliveries with
  | nil => exact ⟨deliveries, rfl, more⟩
  | cons call rest ih =>
      rw [Db.commitAll, Db.commitAll, List.foldl_cons, List.foldl_cons,
        exec_deliveries]
      cases executed : db.exec call.1 call.2 with
      | none => exact ih more
      | some next =>
          apply ih
          rw [(Db.rows_exec executed).1, ← List.append_assoc]
          exact more.append_right _

private theorem balance_creditPoints {kind : String} {points : ℚ}
    {sourceRef : String}
    (executed : db.creditPoints now nodeId kind points sourceRef = some after)
    (other : NodeId) :
    after.balance other =
      db.balance other + if other = nodeId then points else 0 := by
  obtain rfl := Db.creditPoints_cases executed
  rw [Db.balance, lookup_insert_apply]
  split
  · next same =>
      rw [same]
      rfl
  · exact (add_zero _).symm

private theorem isSome_credited : (db.exec now delivery.credited).isSome =
    db.hasNode delivery.nodeId := by
  simp only [Db.exec, Delivery.credited, Db.creditPoints]
  cases db.hasNode delivery.nodeId with
  | false => rfl
  | true => rfl

theorem Gained.credited {rows : List DeliveryRow}
    (gained : Gained delivery.nodeId rows [] 0 alone db)
    (executed : db.exec now delivery.credited = some after) :
    Gained delivery.nodeId rows (Db.ledgerRows now delivery.credited)
      delivery.points alone after where
  deliveries := by
    rw [(Db.rows_exec executed).1]
    exact (List.append_nil _).symm ▸ gained.deliveries
  ledger := by
    rw [(Db.rows_exec executed).2]
    exact (gained.ledger.append_right _).trans List.perm_append_comm
  balance other := by
    rw [balance_creditPoints executed, gained.balance, ite_self, add_zero]

private theorem gained_credit {rows : List DeliveryRow} {commits : Bool}
    (gained : Gained delivery.nodeId rows [] 0 alone db)
    (decides : commits =
      (outcomes.credit.all && db.hasNode delivery.nodeId)) :
    Gained delivery.nodeId rows
      (if commits then Db.ledgerRows creditedAt delivery.credited else [])
      (if commits then delivery.points else 0) alone
      ((db.creditPointsBy outcomes.credit creditedAt delivery.nodeId
        "delivery" delivery.points delivery.requestId).getD db) := by
  have known : (db.exec creditedAt delivery.credited).isSome =
      db.hasNode delivery.nodeId := isSome_credited
  rw [creditPointsBy_eq, decides, ← known]
  cases outcomes.credit.all with
  | false => exact gained
  | true =>
      rw [if_pos rfl, Bool.true_and]
      show Gained _ _ _ _ _ ((db.exec creditedAt delivery.credited).getD db)
      cases executed : db.exec creditedAt delivery.credited with
      | none => exact gained
      | some after => exact gained.credited executed

private theorem record_deliveries {records : Bool}
    (decides : records = (outcomes.record && db.hasNode delivery.nodeId)) :
    ∃ deliveries,
      (do guard outcomes.record
          db.exec recordedAt delivery.recorded).getD db =
        { db with deliveries } ∧
      deliveries.Perm ((if records then
        Db.deliveryRows recordedAt delivery.recorded else []) ++
          db.deliveries) := by
  have executed : db.exec recordedAt delivery.recorded =
      if db.hasNode delivery.nodeId then
        some { db with
          deliveries := db.deliveries ++
            Db.deliveryRows recordedAt delivery.recorded }
      else none := rfl
  rw [executed, decides]
  cases outcomes.record with
  | false => exact ⟨db.deliveries, rfl, .refl _⟩
  | true =>
      cases db.hasNode delivery.nodeId with
      | false => exact ⟨db.deliveries, rfl, .refl _⟩
      | true => exact ⟨_, rfl, List.perm_append_comm⟩

private theorem gained_write {records commits : Bool}
    (first : records = (outcomes.record && db.hasNode delivery.nodeId))
    (second : commits = (outcomes.credit.all &&
      (db.commitAll others).hasNode delivery.nodeId)) :
    Gained delivery.nodeId
      (if records then Db.deliveryRows recordedAt delivery.recorded else [])
      (if commits then Db.ledgerRows creditedAt delivery.credited else [])
      (if commits then delivery.points else 0) (db.commitAll others)
      (delivery.write outcomes recordedAt creditedAt others db) := by
  obtain ⟨deliveries, recorded, more⟩ := record_deliveries first
  obtain ⟨later, shared, more⟩ := commitAll_deliveries more
  have decides : commits = (outcomes.credit.all &&
      (Db.commitAll others { db with deliveries }).hasNode
        delivery.nodeId) := by
    rw [shared]
    exact second
  rw [Delivery.write, recorded]
  apply gained_credit ?_ decides
  rw [shared]
  constructor
  · exact more
  · exact .refl _
  · intro other
    rw [ite_self, add_zero]
    rfl

theorem Gained.length {rows rows' : List DeliveryRow}
    {entries entries' : List LedgerRow} {raised raised' : ℚ}
    (gained : Gained nodeId rows entries raised alone after)
    (again : Gained nodeId rows' entries' raised' alone after) :
    rows.length = rows'.length ∧ entries.length = entries'.length := by
  have deliveries := (gained.deliveries.symm.trans again.deliveries).length_eq
  have ledger := (gained.ledger.symm.trans again.ledger).length_eq
  rw [List.length_append, List.length_append] at deliveries ledger
  omega

/-- The delivery is all or nothing exactly when both calls are carried out or
neither is. -/
theorem allOrNothing_iff (delivery : Delivery) (outcomes : DeliveryOutcomes)
    (recordedAt creditedAt : ℕ) (others : List (ℕ × DbCall)) (db : Db) :
    AllOrNothing delivery recordedAt creditedAt (db.commitAll others)
        (delivery.write outcomes recordedAt creditedAt others db) ↔
      (outcomes.record && db.hasNode delivery.nodeId) =
        (outcomes.credit.all &&
          (db.commitAll others).hasNode delivery.nodeId) := by
  generalize first : (outcomes.record && db.hasNode delivery.nodeId) = records
  generalize second : (outcomes.credit.all &&
    (db.commitAll others).hasNode delivery.nodeId) = commits
  have gained := @gained_write delivery outcomes recordedAt creditedAt others db
    records commits first.symm second.symm
  constructor
  · intro whole
    cases whole with
    | inl all =>
        obtain ⟨row, entry⟩ := gained.length all
        cases records with
        | false => cases row
        | true =>
            cases commits with
            | false => cases entry
            | true => rfl
    | inr none =>
        obtain ⟨row, entry⟩ := gained.length none
        cases records with
        | true => cases row
        | false =>
            cases commits with
            | true => cases entry
            | false => rfl
  · rintro rfl
    cases records with
    | false => exact .inr gained
    | true => exact .inl gained

def letterDelivery : Delivery where
  requestId := "r"
  nodeId := "node"
  model := "m"
  usage := { promptTokens := 1, completionTokens := 2, totalTokens := 3 }
  latencyMs := 0
  points := 2

/-- The insert of the delivery fails alone, and the credit names a request that
has no delivery. -/
theorem credited_without_delivery :
    ¬ AllOrNothing letterDelivery 1 2 (oneNode.commitAll [])
      (letterDelivery.write ⟨false, ⟨true, true, true, true⟩⟩ 1 2 []
        oneNode) := by
  intro whole
  cases whole with
  | inl all => exact absurd all.deliveries.length_eq (by decide +kernel)
  | inr none => exact absurd none.ledger.length_eq (by decide +kernel)

section Run

variable {history later : History FleetState Event}
variable {before between shared final : FleetState} {event : Event}
variable {task : ℕ} {records credits : Bool}

theorem getD_of_attempt {succeeds : Bool}
    (attempted : db.attempt now call succeeds = some after) :
    (do guard succeeds
        db.exec now call).getD db = after := by
  cases succeeds with
  | false => exact Option.some.inj attempted
  | true =>
      have executed : db.exec now call = some after := attempted
      show (db.exec now call).getD db = after
      rw [executed, Option.getD_some]

private theorem write_task
    (spawned : before.tasks[task]? =
      some [delivery.recorded, delivery.credited])
    (first : stepRunTask before task records = some between)
    (commits : shared.db = between.db.commitAll others)
    (waiting : shared.tasks[task]? = between.tasks[task]?)
    (second : stepRunTask shared task credits = some final) :
    final.db = delivery.write ⟨records, ⟨true, true, true, credits⟩⟩
      before.clock shared.clock others before.db := by
  obtain ⟨call, rest, recorded, found, attempted, rfl⟩ :=
    stepRunTask_cases first
  obtain ⟨rfl, rfl⟩ : call = delivery.recorded ∧
      rest = [delivery.credited] := by
    simpa [spawned, eq_comm] using found
  obtain ⟨call, rest, credited, found, again, rfl⟩ := stepRunTask_cases second
  have inside := (List.getElem?_eq_some_iff.mp spawned).1
  obtain ⟨rfl, rfl⟩ : call = delivery.credited ∧ rest = [] := by
    simpa [waiting, inside, eq_comm] using found
  have all : (CreditOutcomes.all ⟨true, true, true, credits⟩) = credits := rfl
  rw [Delivery.write, getD_of_attempt attempted, ← commits, creditPointsBy_eq,
    all, ← getD_of_attempt again]
  cases credits with
  | false => rfl
  | true => rfl

theorem exists_commitAll {succeeds : Bool}
    (attempted : db.attempt now call succeeds = some after) :
    ∃ others, after = db.commitAll others := by
  cases succeeds with
  | false => exact ⟨[], (Option.some.inj attempted).symm⟩
  | true =>
      refine ⟨[(now, call)], ?_⟩
      exact (getD_of_attempt attempted).symm

theorem commitAll_append (first second : List (ℕ × DbCall)) :
    db.commitAll (first ++ second) = (db.commitAll first).commitAll second :=
  List.foldl_append

theorem exists_others
    (run : (fleetManager app).Run history between)
    (more : (fleetManager app).Run (history ++ later) shared)
    (inside : task < between.tasks.length)
    (apart : ∀ taken ∈ later, ∀ succeeds, taken.2 ≠ .runTask task succeeds) :
    ∃ others, shared.db = between.db.commitAll others ∧
      shared.tasks[task]? = between.tasks[task]? := by
  induction later using List.reverseRecOn generalizing shared with
  | nil =>
      rw [List.append_nil] at more
      obtain rfl := run.functional more
      exact ⟨[], rfl, rfl⟩
  | append_singleton steps last ih =>
      rw [← List.append_assoc] at more
      obtain ⟨state, event⟩ := last
      obtain ⟨earlier, taken⟩ := run_concat more
      obtain ⟨others, db, waiting⟩ := ih earlier fun taken member =>
        apart taken (List.mem_append_left _ member)
      have within : task < state.tasks.length := by
        rw [List.getElem?_eq_getElem inside] at waiting
        exact (List.getElem?_eq_some_iff.mp waiting).1
      cases db_step taken with
      | spawn same tasks other =>
          refine ⟨others, same.trans db, ?_⟩
          rw [tasks, List.getElem?_append_left within, waiting]
      | run call rest turn succeeds same found attempted tasks =>
          have different : turn ≠ task := by
            intro own
            have member : (state, event) ∈ steps ++ [(state, event)] :=
              List.mem_append_right _ (List.mem_singleton.mpr rfl)
            exact apart (state, event) member succeeds (own ▸ same)
          obtain ⟨last, committed⟩ := exists_commitAll attempted
          refine ⟨others ++ last, ?_, ?_⟩
          · rw [committed, db, commitAll_append]
          · rw [tasks, List.getElem?_set_ne different, waiting]
      | resume credit tunnel own succeeds same found awaited attempted tasks =>
          obtain ⟨last, committed⟩ := exists_commitAll attempted
          refine ⟨others ++ last, ?_, ?_⟩
          · rw [committed, db, commitAll_append]
          · rw [tasks, waiting]

private theorem spawned_done {tunnel : TunnelId} {arrived handled : FleetState}
    {own : Tunnel}
    (received : stepReceive app arrived tunnel (.text (.done done)) =
      some handled)
    (found : arrived.tunnels[tunnel]? = some own)
    (pending : arrived.registry.getPending done.requestId = some request) :
    handled.tasks[arrived.tasks.length]? =
      some [(Delivery.ofDone app arrived.registry own.session done
          request).recorded,
        (Delivery.ofDone app arrived.registry own.session done
          request).credited] := by
  obtain ⟨task, known, -, -, rfl⟩ := stepReceive_text received
  obtain rfl := Option.some.inj (found.symm.trans known)
  rw [tasks_stepMessage, handleMessage, task_handleDone pending]
  simp

/-- In a run, the two steps of the task that a `Done` spawns write its
delivery. -/
theorem exists_write {tunnel : TunnelId} {arrived handled : FleetState}
    {own : Tunnel} {meanwhile : History FleetState Event}
    (run : (fleetManager app).Run history arrived)
    (received : stepReceive app arrived tunnel (.text (.done done)) =
      some handled)
    (found : arrived.tunnels[tunnel]? = some own)
    (pending : arrived.registry.getPending done.requestId = some request)
    (waits : (fleetManager app).Run
      (history ++ [(arrived, .receive tunnel (.text (.done done)))] ++
        meanwhile) before)
    (untaken : ∀ taken ∈ meanwhile, ∀ succeeds,
      taken.2 ≠ .runTask arrived.tasks.length succeeds)
    (first : stepRunTask before arrived.tasks.length records = some between)
    (more : (fleetManager app).Run
      (history ++ [(arrived, .receive tunnel (.text (.done done)))] ++
        meanwhile ++ [(before, .runTask arrived.tasks.length records)] ++
        later) shared)
    (apart : ∀ taken ∈ later, ∀ succeeds,
      taken.2 ≠ .runTask arrived.tasks.length succeeds)
    (second : stepRunTask shared arrived.tasks.length credits = some final) :
    ∃ others, final.db =
      (Delivery.ofDone app arrived.registry own.session done request).write
        ⟨records, ⟨true, true, true, credits⟩⟩ before.clock shared.clock
        others before.db := by
  have spawned := spawned_done received found pending
  have arrives : (fleetManager app).step arrived
      (.receive tunnel (.text (.done done))) = some handled := received
  obtain ⟨-, -, waiting⟩ := exists_others (run.next arrives) waits
    (List.getElem?_eq_some_iff.mp spawned).1 untaken
  rw [← waiting] at spawned
  have inside : arrived.tasks.length < between.tasks.length := by
    obtain ⟨call, rest, db, found, -, rfl⟩ := stepRunTask_cases first
    rw [List.length_set]
    exact (List.getElem?_eq_some_iff.mp found).1
  have taken : (fleetManager app).step before
      (.runTask arrived.tasks.length records) = some between := first
  obtain ⟨others, commits, waiting⟩ :=
    exists_others (waits.next taken) more inside apart
  exact ⟨others, write_task spawned first commits waiting second⟩

end Run

end JwSwarm.FleetManager
