import JwSwarm.WindowsNode.Serving

namespace JwSwarm.WindowsNode

open Data Proto Transition Machine

/-! The memory of the Windows backend while its tasks load models. The size of
an artifact is read again when it is loaded, and not compared to the limit
then. -/

/-- Within the limit, or down to a single model. -/
def Bounded (limitMb : ℕ) (entries : List (ModelId × ℕ)) : Prop :=
  Lru.totalSize entries ≤ limitMb ∨ entries.length ≤ 1

def Roomy (limitMb sizeMb : ℕ) (entries : List (ModelId × ℕ)) : Prop :=
  Lru.totalSize entries + sizeMb ≤ limitMb ∨ entries = []

section Entries

variable {limitMb sizeMb : ℕ} {entries other : List (ModelId × ℕ)}
variable {id : ModelId}

private theorem roomy_evict :
    Roomy limitMb sizeMb (Lru.evict limitMb sizeMb entries) := by
  induction entries with
  | nil => exact .inr rfl
  | cons entry rest ih =>
      unfold Lru.evict
      split
      · next fits => exact .inl fits
      · exact ih

theorem Roomy.bounded (roomy : Roomy limitMb sizeMb entries) :
    Bounded limitMb entries := by
  rcases roomy with fits | rfl
  · exact .inl (Nat.le_of_add_right_le fits)
  · exact .inr (Nat.zero_le 1)

private theorem Roomy.bounded_concat (roomy : Roomy limitMb sizeMb entries) :
    Bounded limitMb (entries ++ [(id, sizeMb)]) := by
  rcases roomy with fits | rfl
  · left
    rw [Lru.totalSize_append]
    simpa [Lru.totalSize] using fits
  · exact .inr (Nat.le_refl 1)

theorem Bounded.perm (bounded : Bounded limitMb entries)
    (same : other.Perm entries) : Bounded limitMb other := by
  rcases bounded with fits | single
  · exact .inl ((same.map Prod.snd).sum_eq.trans_le fits)
  · exact .inr (same.length_eq.trans_le single)

end Entries

/-- A cache that is within its limit, or down to a single model. -/
def Fitting (limitMb : ℕ) (cache : BackendManager) : Prop :=
  ∃ entries, cache.Holds limitMb cache.ready entries ∧ Bounded limitMb entries

variable {limitMb sizeMb : ℕ} {cache : BackendManager} {id : ModelId}
variable {file : Artifact} {loads : Bool}

private theorem fitting_new :
    Fitting (BackendManager.new limitMb).memoryLimitMb (.new limitMb) :=
  ⟨[], ⟨rfl, rfl, .empty⟩, .inr (Nat.zero_le 1)⟩

theorem Fitting.register (fitting : Fitting limitMb cache) :
    Fitting limitMb (cache.register id file) := by
  obtain ⟨entries, holds, bounded⟩ := fitting
  exact ⟨entries, ⟨holds.limit, rfl, holds.tabled⟩, bounded⟩

theorem Fitting.trim (fitting : Fitting limitMb cache)
    (missing : cache.loaded.lookup id = none) :
    ∃ entries,
      (cache.trimLoadedToBudget id sizeMb).Holds limitMb
        (cache.trimLoadedToBudget id sizeMb).ready entries ∧
      Roomy limitMb sizeMb entries ∧
      id ∉ (cache.trimLoadedToBudget id sizeMb).loaded := by
  obtain ⟨entries, holds, -⟩ := fitting
  have absent : id ∉ Lru.keys entries := fun member =>
    AList.lookup_eq_none.mp missing (holds.mem_iff.mpr member)
  have trimmed : (cache.trimLoadedToBudget id sizeMb).Holds limitMb cache.ready
      (Lru.evict limitMb sizeMb entries) := holds.trimLoadedToBudget absent
  have ready := @ready_trimLoadedToBudget cache id sizeMb
  rw [← ready] at trimmed
  refine ⟨_, trimmed, roomy_evict, fun member => absent ?_⟩
  exact (Lru.evict_sublist.map Prod.fst).subset (trimmed.mem_iff.mp member)

theorem Fitting.ensureLoaded (fitting : Fitting limitMb cache) :
    Fitting limitMb (cache.ensureLoaded id file loads).1 := by
  unfold BackendManager.ensureLoaded
  split
  · next sizeMb found =>
      obtain ⟨entries, holds, bounded⟩ := fitting
      have member : id ∈ cache.loaded :=
        AList.lookup_isSome.mp (by rw [found]; rfl)
      exact ⟨_, holds.touch member, bounded.perm Lru.touch_perm⟩
  · next missing =>
      cases file with
      | none => exact fitting
      | some size =>
          obtain ⟨entries, holds, roomy, absent⟩ :=
            @Fitting.trim _ (size.getD 1) _ id fitting missing
          cases loads with
          | false => exact ⟨entries, holds, roomy.bounded⟩
          | true => exact ⟨_, holds.load absent, roomy.bounded_concat⟩

variable {serving advanced : Server} {event : ServerEvent}
variable {past : History Server ServerEvent} {state : Backend}
variable {history : History Backend BackendEvent}
variable {manager : BackendManager} {holders : List PromptTask}
variable {draft : Option Reply} {task : PromptTask}

theorem Fitting.step (fitting : Fitting limitMb serving.cache)
    (taken : ServerMove serving event advanced) :
    Fitting limitMb advanced.cache := by
  cases taken with
  | register => exact fitting.register
  | start => exact fitting.ensureLoaded
  | submit =>
      unfold Server.submit
      split
      · exact fitting
      · exact fitting
  | _ => exact fitting

private theorem fitting_run (run : (server limitMb).Run past serving) :
    Fitting (BackendManager.new limitMb).memoryLimitMb serving.cache := by
  induction run with
  | start => exact fitting_new
  | next _ taken ih => exact ih.step (step_move taken)

theorem Held.fitting (held : Held cache holders manager draft)
    (fitting : Fitting limitMb cache) :
    Fitting limitMb manager ∧
      ∀ task ∈ holders, ∀ sizeMb, task.phase = .loading sizeMb →
        ∃ entries, manager.Holds limitMb manager.ready entries ∧
          Roomy limitMb sizeMb entries := by
  cases held with
  | @loading prompt dir size missing =>
      obtain ⟨entries, holds, roomy, -⟩ :=
        @Fitting.trim _ size _ _ fitting missing
      refine ⟨⟨entries, holds, roomy.bounded⟩,
        fun task member sizeMb same => ?_⟩
      obtain rfl := List.mem_singleton.mp member
      obtain rfl := TaskPhase.loading.inj same
      exact ⟨entries, holds, roomy⟩
  | idle => exact ⟨fitting, fun _ member => by cases member⟩
  | _ =>
      refine ⟨fitting, fun task member sizeMb same => ?_⟩
      obtain rfl := List.mem_singleton.mp member
      cases same

theorem Fitting.resident (fitting : Fitting limitMb manager) :
    manager.residentMb ≤ manager.memoryLimitMb ∨
      manager.loadedOrder.length ≤ 1 := by
  obtain ⟨entries, holds, bounded⟩ := fitting
  rw [BackendManager.residentMb, holds.tabled.total, holds.limit,
    holds.tabled.order, Lru.keys, List.length_map]
  exact bounded

theorem BackendManager.Holds.room {entries : List (ModelId × ℕ)}
    {ready : KeySet ModelId} (holds : manager.Holds limitMb ready entries)
    (roomy : Roomy limitMb sizeMb entries) :
    manager.residentMb + sizeMb ≤ manager.memoryLimitMb ∨
      manager.loadedOrder = [] := by
  rw [residentMb, holds.tabled.total, holds.limit, holds.tabled.order, Lru.keys,
    List.map_eq_nil_iff]
  exact roomy

/-- In every run, what is in memory is within the limit or a single model, and
while a task loads a model, there is room for it or nothing else is there. -/
theorem resident_bounded (run : (backend limitMb).Run history state) :
    let manager := state.shared.manager
    (manager.residentMb ≤ manager.memoryLimitMb ∨
        manager.loadedOrder.length ≤ 1) ∧
      ∀ task ∈ state.tasks, ∀ sizeMb, task.phase = .loading sizeMb →
        manager.residentMb + sizeMb ≤ manager.memoryLimitMb ∨
          manager.loadedOrder = [] := by
  obtain ⟨past, serving, served, related⟩ := (serves limitMb).run run
  obtain ⟨fitting, loading⟩ := related.held.fitting (fitting_run served)
  refine ⟨fitting.resident, fun task member sizeMb phase => ?_⟩
  have holder : task ∈ state.holders :=
    List.mem_filter.mpr ⟨member, by simp [PromptTask.holds, phase,
      TaskPhase.holds]⟩
  obtain ⟨entries, holds, roomy⟩ := loading task holder sizeMb phase
  exact holds.room roomy

theorem resident_bounded_loading :
    ∃ history state, (backend 10).Run history state ∧
      state.tasks.length = 2 ∧
      let manager := state.shared.manager
      (manager.residentMb ≤ manager.memoryLimitMb ∨
          manager.loadedOrder.length ≤ 1) ∧
        ∀ task ∈ state.tasks, ∀ sizeMb, task.phase = .loading sizeMb →
          manager.residentMb + sizeMb ≤ manager.memoryLimitMb ∨
            manager.loadedOrder = [] := by
  obtain ⟨history, state, run, observed⟩ := (backend 10).exists_run_of_trace
    (workedEvents.take 6) (fun outcome => outcome.2.tasks.length == 2)
    (by decide +kernel)
  exact ⟨history, state, run, eq_of_beq observed, resident_bounded run⟩

end JwSwarm.WindowsNode
