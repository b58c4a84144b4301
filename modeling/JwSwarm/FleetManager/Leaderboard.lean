import JwSwarm.FleetManager.Earnings

namespace JwSwarm.FleetManager

open Data Proto Transition Machine

/-! The overviews of the admin interface, each one query over what is
committed. -/

structure LeaderboardEntry where
  rank : UInt32
  nodeId : NodeId
  totalPoints : ℚ

/-- `ORDER BY total_points DESC` -/
def adminLeaderboard (db : Db) : List LeaderboardEntry :=
  (db.nodeBalances.entries.mergeSort fun first second =>
      decide (second.2 ≤ first.2)).mapIdx fun index row =>
    { rank := .ofNat (index + 1), nodeId := row.1, totalPoints := row.2 }

structure AdminNodeInfo where
  nodeId : NodeId
  hostname : String
  os : OsKind
  gpuVendor : GpuVendor
  gpuName : String
  gpuVramMb : Int64
  firstSeen : String
  lastSeen : String
  totalPoints : Option ℚ

/-- `LEFT JOIN node_balances`, `ORDER BY n.last_seen DESC` -/
def adminNodes (rfc3339 : ℕ → String) (db : Db) : List AdminNodeInfo :=
  (db.nodes.mergeSort fun first second =>
      decide (rfc3339 second.lastSeen ≤ rfc3339 first.lastSeen)).map fun row =>
    { nodeId := row.nodeId
      hostname := row.hostname
      os := row.os
      gpuVendor := row.gpuVendor
      gpuName := row.gpuName
      gpuVramMb := row.gpuVramMb
      firstSeen := rfc3339 row.firstSeen
      lastSeen := rfc3339 row.lastSeen
      totalPoints := db.nodeBalances.lookup row.nodeId }

/-- A node has one row, and a balance only if it was credited. -/
structure Listed (db : Db) : Prop where
  unique : (db.nodes.map NodeRow.nodeId).Nodup
  known : ∀ nodeId ∈ db.nodeBalances, db.hasNode nodeId = true
  credited : ∀ nodeId ∈ db.nodeBalances,
    ∃ row ∈ db.pointsLedger, row.nodeId = nodeId

variable {db next : Db} {now : ℕ} {call : DbCall} {nodeId : NodeId}

theorem hasNode_iff :
    db.hasNode nodeId = true ↔ nodeId ∈ db.nodes.map NodeRow.nodeId := by
  simp [Db.hasNode]

private theorem nodeIds_upsertNode (register : Register) :
    (db.upsertNode now register).nodes.map NodeRow.nodeId =
      if db.hasNode register.nodeId then db.nodes.map NodeRow.nodeId
      else db.nodes.map NodeRow.nodeId ++ [register.nodeId] := by
  unfold Db.upsertNode
  simp only
  split
  · rw [List.map_map]
    apply List.map_congr_left
    intro row _
    by_cases same : row.nodeId = register.nodeId
    · simp [same]
    · simp [same]
  · rw [List.map_append]
    rfl

theorem Listed.upsertNode (listed : Listed db) (register : Register) :
    Listed (db.upsertNode now register) := by
  have ids := @nodeIds_upsertNode db now register
  rw [Db.upsertNode_eq]
  refine ⟨?_, fun nodeId member => ?_, listed.credited⟩
  · show ((db.upsertNode now register).nodes.map NodeRow.nodeId).Nodup
    rw [ids]
    split
    · exact listed.unique
    · next absent =>
        rw [hasNode_iff] at absent
        exact List.nodup_append.mpr ⟨listed.unique, List.nodup_singleton _,
          fun _ old _ new same => absent
            (List.mem_singleton.mp new ▸ same ▸ old)⟩
  · rw [hasNode_iff]
    show nodeId ∈ (db.upsertNode now register).nodes.map NodeRow.nodeId
    have old := hasNode_iff.mp (listed.known nodeId member)
    rw [ids]
    split
    · exact old
    · exact List.mem_append_left _ old

theorem Listed.creditPoints (listed : Listed db) {kind : String} {points : ℚ}
    {sourceRef : String}
    (executed : db.creditPoints now nodeId kind points sourceRef = some next) :
    Listed next := by
  have known : db.hasNode nodeId = true := by
    unfold Db.creditPoints at executed
    split at executed
    · next known => exact known
    · cases executed
  obtain rfl := Db.creditPoints_cases executed
  refine ⟨listed.unique, fun other member => ?_, fun other member => ?_⟩
  · rcases (AList.mem_insert _).mp member with rfl | old
    · exact known
    · exact listed.known other old
  · rcases (AList.mem_insert _).mp member with rfl | old
    · exact ⟨_, List.mem_append_right _ List.mem_cons_self, rfl⟩
    · obtain ⟨row, inside, same⟩ := listed.credited other old
      exact ⟨row, List.mem_append_left _ inside, same⟩

theorem Listed.exec (listed : Listed db)
    (executed : db.exec now call = some next) : Listed next := by
  cases call with
  | upsertNode register =>
      obtain rfl := Option.some.inj executed
      exact listed.upsertNode register
  | creditPoints nodeId kind points sourceRef =>
      exact listed.creditPoints executed
  | openSession nodeId gpuPowerPct vramMb =>
      rw [Db.openSession_cases executed]
      exact ⟨listed.unique, listed.known, listed.credited⟩
  | closeSession nodeId =>
      rw [Db.updateLatestOpenSession_eq executed]
      exact ⟨listed.unique, listed.known, listed.credited⟩
  | touchSessionAwake nodeId delta =>
      rw [Db.updateLatestOpenSession_eq executed]
      exact ⟨listed.unique, listed.known, listed.credited⟩
  | recordDelivery requestId nodeId model usage latencyMs =>
      rw [Db.recordDelivery_cases executed]
      exact ⟨listed.unique, listed.known, listed.credited⟩

theorem Listed.attempt (listed : Listed db) {succeeds : Bool}
    (attempted : db.attempt now call succeeds = some next) : Listed next := by
  unfold Db.attempt at attempted
  split at attempted
  · exact listed.exec attempted
  · obtain rfl := Option.some.inj attempted
    exact listed

variable {app : AppState} {base : Db} {history : History FleetState Event}
variable {final : FleetState}

theorem listed_run (listed : Listed base)
    (run : (fleetManagerOn app base).Run history final) : Listed final.db := by
  induction run with
  | start => exact listed
  | next run taken ih =>
      cases db_step taken with
      | spawn db tasks other => rw [db]; exact ih
      | run call rest task succeeds same found db tasks => exact ih.attempt db
      | resume credit tunnel task succeeds same found awaited db tasks =>
          exact ih.attempt db

def LeaderboardEntry.row (entry : LeaderboardEntry) : Σ _ : NodeId, ℚ :=
  ⟨entry.nodeId, entry.totalPoints⟩

def balanceRows (db : Db) : List (Σ _ : NodeId, ℚ) :=
  db.nodeBalances.entries.mergeSort fun first second =>
    decide (second.2 ≤ first.2)

theorem rows_adminLeaderboard :
    (adminLeaderboard db).map LeaderboardEntry.row = balanceRows db := by
  apply List.ext_getElem?
  intro index
  simp only [adminLeaderboard, balanceRows, List.getElem?_map,
    List.getElem?_mapIdx, Option.map_map]
  exact congrFun Option.map_id _

theorem rows_perm :
    ((adminLeaderboard db).map LeaderboardEntry.row).Perm
      db.nodeBalances.entries := by
  rw [rows_adminLeaderboard]
  exact List.mergeSort_perm _ _

private theorem balanceRows_sorted :
    (balanceRows db).Pairwise fun first second => second.2 ≤ first.2 := by
  have trans (first second third : Σ _ : NodeId, ℚ)
      (above : decide (second.2 ≤ first.2) = true)
      (below : decide (third.2 ≤ second.2) = true) :
      decide (third.2 ≤ first.2) = true :=
    decide_eq_true ((of_decide_eq_true below).trans (of_decide_eq_true above))
  have total (first second : Σ _ : NodeId, ℚ) :
      (decide (second.2 ≤ first.2) || decide (first.2 ≤ second.2)) = true := by
    simpa using le_total second.2 first.2
  exact (List.pairwise_mergeSort trans total db.nodeBalances.entries).imp
    of_decide_eq_true

theorem leaderboard_ids :
    ((adminLeaderboard db).map LeaderboardEntry.nodeId).Perm
      db.nodeBalances.keys := by
  have ids := (@rows_perm db).map Sigma.fst
  rwa [List.map_map] at ids

structure Board (db : Db) (board : List LeaderboardEntry) : Prop where
  once : (board.map LeaderboardEntry.nodeId).Nodup
  complete : ∀ nodeId, nodeId ∈ board.map LeaderboardEntry.nodeId ↔
    ∃ row ∈ db.pointsLedger, row.nodeId = nodeId
  points : ∀ entry ∈ board, entry.totalPoints = ledgerTotal db entry.nodeId
  sorted : board.Pairwise fun first second =>
    second.totalPoints ≤ first.totalPoints
  ranks : ∀ (index : ℕ) (entry : LeaderboardEntry),
    board[index]? = some entry → entry.rank = .ofNat (index + 1)

theorem mem_balances_iff (listed : Listed db)
    (balances : BalancesEqualLedger db) :
    nodeId ∈ db.nodeBalances ↔
      ∃ row ∈ db.pointsLedger, row.nodeId = nodeId := by
  refine ⟨listed.credited nodeId, fun ⟨row, inside, same⟩ => ?_⟩
  by_contra absent
  exact balances.absent nodeId (AList.lookup_eq_none.mpr absent) row inside same

theorem Listed.board (listed : Listed db) (balances : BalancesEqualLedger db) :
    Board db (adminLeaderboard db) where
  once := leaderboard_ids.nodup_iff.mpr db.nodeBalances.keys_nodup
  complete nodeId := by
    rw [leaderboard_ids.mem_iff, AList.mem_keys.symm]
    exact mem_balances_iff listed balances
  points entry member := by
    have row : entry.row ∈ db.nodeBalances.entries :=
      rows_perm.subset (List.mem_map_of_mem member)
    exact balances.total _ _ (AList.mem_lookup_iff.mpr row)
  sorted := by
    have above := @balanceRows_sorted db
    rw [← rows_adminLeaderboard, List.pairwise_map] at above
    exact above
  ranks index entry found := by
    rw [adminLeaderboard, List.getElem?_mapIdx] at found
    obtain ⟨row, -, rfl⟩ := Option.map_eq_some_iff.mp found
    rfl

structure Overview (db : Db) (nodes : List AdminNodeInfo) : Prop where
  once : (nodes.map AdminNodeInfo.nodeId).Nodup
  complete : ∀ nodeId, nodeId ∈ nodes.map AdminNodeInfo.nodeId ↔
    db.hasNode nodeId = true
  points : ∀ node ∈ nodes, node.totalPoints =
    if node.nodeId ∈ db.pointsLedger.map LedgerRow.nodeId then
      some (ledgerTotal db node.nodeId)
    else none
  ranked : ∀ entry ∈ adminLeaderboard db, ∃ node ∈ nodes,
    node.nodeId = entry.nodeId ∧ node.totalPoints = some entry.totalPoints

variable {rfc3339 : ℕ → String}

theorem overview_ids :
    ((adminNodes rfc3339 db).map AdminNodeInfo.nodeId).Perm
      (db.nodes.map NodeRow.nodeId) := by
  rw [adminNodes, List.map_map]
  exact (List.mergeSort_perm _ _).map _

theorem totalPoints_overview {node : AdminNodeInfo}
    (member : node ∈ adminNodes rfc3339 db) :
    node.totalPoints = db.nodeBalances.lookup node.nodeId := by
  obtain ⟨row, -, rfl⟩ := List.mem_map.mp member
  rfl

private theorem Listed.overview (listed : Listed db)
    (balances : BalancesEqualLedger db) :
    Overview db (adminNodes rfc3339 db) where
  once := overview_ids.nodup_iff.mpr listed.unique
  complete nodeId := overview_ids.mem_iff.trans hasNode_iff.symm
  points node member := by
    have credited := @mem_balances_iff db node.nodeId listed balances
    rw [totalPoints_overview member]
    cases found : db.nodeBalances.lookup node.nodeId with
    | none =>
        rw [if_neg]
        intro inside
        obtain ⟨row, inside, same⟩ := List.mem_map.mp inside
        exact AList.lookup_eq_none.mp found (credited.mpr ⟨row, inside, same⟩)
    | some total =>
        rw [if_pos, balances.total _ _ found]
        obtain ⟨row, inside, same⟩ :=
          credited.mp (AList.lookup_isSome.mp (by rw [found]; rfl))
        exact List.mem_map.mpr ⟨row, inside, same⟩
  ranked entry member := by
    have row : entry.row ∈ db.nodeBalances.entries :=
      rows_perm.subset (List.mem_map_of_mem member)
    have found : db.nodeBalances.lookup entry.nodeId = some entry.totalPoints :=
      AList.mem_lookup_iff.mpr row
    have known : db.hasNode entry.nodeId = true :=
      listed.known _ (AList.lookup_isSome.mp (by rw [found]; rfl))
    have shown := (@overview_ids db rfc3339).symm.subset (hasNode_iff.mp known)
    obtain ⟨node, inside, same⟩ := List.mem_map.mp shown
    refine ⟨node, inside, same, ?_⟩
    rw [totalPoints_overview inside, same, found]

private theorem listed_uncredited {tables : Db}
    (unique : (tables.nodes.map NodeRow.nodeId).Nodup) :
    Listed (uncredited tables) where
  unique := unique
  known _ member := by cases member
  credited _ member := by cases member

end JwSwarm.FleetManager
