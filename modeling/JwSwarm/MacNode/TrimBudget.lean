import JwSwarm.Data.Lru
import JwSwarm.MacNode.ReadyLimit

namespace JwSwarm.MacNode

open Data Proto Transition Machine

/-! The models in memory against the memory limit, over the backend's calls.
The disk may change from one call to the next. -/

namespace LlamaBackend

/-- The list holds each loaded model once and nothing else. -/
structure Ordered (backend : LlamaBackend) : Prop where
  nodup : backend.loadedOrder.Nodup
  mem_iff : ∀ id, id ∈ backend.loadedOrder ↔ id ∈ backend.loaded

/-- The loop ends, in the state that the call of it returns. -/
def TrimEnds (backend : LlamaBackend) : Prop :=
  ∀ preferred reservingMb,
    Lru.LoopEnds (trimTurn preferred reservingMb) backend
      (backend.trimLoadedModelsToFitBudget preferred reservingMb)

def WithinLimit (backend : LlamaBackend) : Prop :=
  backend.loadedResidentMemoryMb none ≤ backend.memoryLimitMb

/-- The states in which a call may enter the loop. -/
inductive Enters (files : Files) (backend : LlamaBackend) :
    LimitCall → LlamaBackend → Prop
  | updateMemoryLimitMb (value : ℕ) :
      Enters files backend (.updateMemoryLimitMb value)
        ({ backend with memoryLimitMb := value }.unloadOversizedModelsIfNeeded
          files)
  | reserving (id : ModelId) (loads : Bool) :
      Enters files backend (.dispatch id loads) backend
  | loaded (id : ModelId) (size : ℕ) :
      Enters files backend (.dispatch id true)
        ({ backend.trimLoadedModelsToFitBudget none size with
          loaded := (backend.trimLoadedModelsToFitBudget none
            size).loaded.insert id size }.touchLoadedModel id)

variable {files : Files} {backend next entered : LlamaBackend}
variable {id : ModelId} {preferred : Option ModelId}
variable {size reservingMb : ℕ}

theorem Ordered.unload (ordered : backend.Ordered) :
    (backend.unload id).Ordered where
  nodup := ordered.nodup.filter _
  mem_iff other := by
    rw [LlamaBackend.unload, List.mem_filter, AList.mem_erase,
      ordered.mem_iff, decide_eq_true_iff, and_comm]

theorem Ordered.unloadLoadedModel (ordered : backend.Ordered)
    (removeFromReady : Bool) :
    (backend.unloadLoadedModel id removeFromReady).Ordered := by
  unfold LlamaBackend.unloadLoadedModel
  split
  · simp only
    split
    · exact ⟨ordered.unload.nodup, ordered.unload.mem_iff⟩
    · exact ordered.unload
  · exact ordered

theorem Ordered.unloadOversized (ordered : backend.Ordered) :
    (backend.unloadOversized files id).Ordered := by
  unfold LlamaBackend.unloadOversized
  split
  · split
    · exact ordered.unloadLoadedModel true
    · exact ordered
  · exact ordered

theorem Ordered.unloadOversizedModelsIfNeeded (ordered : backend.Ordered) :
    (backend.unloadOversizedModelsIfNeeded files).Ordered := by
  have whole (ids : List ModelId) :
      (ids.foldl (LlamaBackend.unloadOversized files) backend).Ordered := by
    induction ids generalizing backend with
    | nil => exact ordered
    | cons id ids ih => exact ih ordered.unloadOversized
  exact whole _

theorem Ordered.limited (ordered : backend.Ordered) (value : ℕ) :
    ({ backend with memoryLimitMb := value }.unloadOversizedModelsIfNeeded
      files).Ordered := by
  have same : { backend with memoryLimitMb := value }.Ordered :=
    ⟨ordered.nodup, ordered.mem_iff⟩
  exact same.unloadOversizedModelsIfNeeded

theorem nodup_touched {order : List ModelId} (nodup : order.Nodup) :
    (order.filter (· ≠ id) ++ [id]).Nodup := by
  apply (nodup.filter _).append (List.nodup_singleton id)
  rw [List.disjoint_singleton, List.mem_filter]
  intro member
  exact of_decide_eq_true member.2 rfl

theorem Ordered.touchLoadedModel (ordered : backend.Ordered)
    (loaded : id ∈ backend.loaded) : (backend.touchLoadedModel id).Ordered where
  nodup := nodup_touched ordered.nodup
  mem_iff other := by
    rw [LlamaBackend.touchLoadedModel, List.mem_append, List.mem_filter,
      List.mem_singleton, decide_eq_true_iff, ordered.mem_iff]
    by_cases same : other = id
    · simp [same, loaded]
    · simp [same]

theorem Ordered.insert (ordered : backend.Ordered) :
    ({ backend with loaded := backend.loaded.insert id size }.touchLoadedModel
      id).Ordered where
  nodup := nodup_touched ordered.nodup
  mem_iff other := by
    rw [LlamaBackend.touchLoadedModel, List.mem_append, List.mem_filter,
      List.mem_singleton, decide_eq_true_iff, ordered.mem_iff, AList.mem_insert]
    by_cases same : other = id
    · simp [same]
    · simp [same]

theorem Ordered.trimTurn (ordered : backend.Ordered)
    (turned : backend.trimTurn preferred reservingMb = some next) :
    next.Ordered ∧ next.loadedOrder.length < backend.loadedOrder.length := by
  obtain ⟨candidate, member, -, rfl⟩ := trimTurn_eq_some turned
  have loaded := (ordered.mem_iff candidate).mp member
  refine ⟨ordered.unloadLoadedModel false, ?_⟩
  rw [LlamaBackend.unloadLoadedModel, if_pos loaded]
  apply List.length_filter_lt_length_iff_exists.mpr
  exact ⟨candidate, member, by simp⟩

theorem Ordered.trimEnds (ordered : backend.Ordered) : backend.TrimEnds := by
  intro preferred reservingMb
  rw [trimLoadedModelsToFitBudget, trimLoop_eq_untilNone]
  exact Lru.loopEnds_untilNone (fun backend => backend.loadedOrder.length)
    Ordered.trimTurn ordered (Nat.le_refl _)

theorem Ordered.trim (ordered : backend.Ordered) :
    (backend.trimLoadedModelsToFitBudget preferred reservingMb).Ordered :=
  trimLoop_invariant Ordered
    (fun _ ordered => ordered.unloadLoadedModel false) ordered

/-- The loop ends within the limit, or with nothing but the preferred model. -/
theorem Ordered.of_trimTurn_eq_none (ordered : backend.Ordered)
    (ended : backend.trimTurn preferred reservingMb = none) :
    backend.loadedResidentMemoryMb preferred + reservingMb ≤
        backend.memoryLimitMb ∨
      backend.loadedResidentMemoryMb preferred = 0 := by
  unfold LlamaBackend.trimTurn at ended
  split at ended
  · right
    have none := List.find?_eq_none.mp (Option.map_eq_none_iff.mp ended)
    have others : (backend.loaded.entries.filter fun entry =>
        some entry.1 ≠ preferred) = [] := by
      rw [List.filter_eq_nil_iff]
      intro entry member
      apply none
      rw [ordered.mem_iff, AList.mem_keys]
      exact List.mem_map_of_mem member
    rw [loadedResidentMemoryMb, others]
    rfl
  · next fits => exact .inl (Nat.le_of_not_lt fits)

theorem Ordered.trim_fits (ordered : backend.Ordered)
    (small : reservingMb ≤ backend.memoryLimitMb) :
    (backend.trimLoadedModelsToFitBudget none
        reservingMb).loadedResidentMemoryMb none + reservingMb ≤
      (backend.trimLoadedModelsToFitBudget none reservingMb).memoryLimitMb := by
  have ended := (ordered.trimEnds none reservingMb).turn_eq_none
  rcases ordered.trim.of_trimTurn_eq_none ended with fits | empty
  · exact fits
  · rwa [empty, Nat.zero_add, memoryLimitMb_trimLoadedModelsToFitBudget]

private theorem trim_of_fits
    (fits : backend.loadedResidentMemoryMb preferred + reservingMb ≤
      backend.memoryLimitMb) :
    backend.trimLoadedModelsToFitBudget preferred reservingMb = backend := by
  rw [trimLoadedModelsToFitBudget, trimLoop_eq_untilNone]
  exact Lru.untilNone_of_none (if_neg (Nat.not_lt.mpr fits))

private theorem filter_excluded (absent : id ∉ backend.loaded) :
    (backend.loaded.entries.filter fun entry => some entry.1 ≠ some id) =
      backend.loaded.entries := by
  rw [List.filter_eq_self]
  intro entry member
  apply decide_eq_true
  intro same
  apply absent
  rw [← Option.some.inj same, AList.mem_keys]
  exact List.mem_map_of_mem member

theorem resident_none : backend.loadedResidentMemoryMb none =
    (backend.loaded.entries.map Sigma.snd).sum := by
  simp [loadedResidentMemoryMb]

private theorem resident_insert (absent : id ∉ backend.loaded) :
    ({ backend with loaded := backend.loaded.insert id size }.touchLoadedModel
      id).loadedResidentMemoryMb none =
        backend.loadedResidentMemoryMb none + size := by
  rw [resident_none, resident_none, touchLoadedModel,
    AList.entries_insert_of_notMem absent, List.map_cons, List.sum_cons,
    Nat.add_comm]

private theorem resident_insert_excluded (absent : id ∉ backend.loaded) :
    ({ backend with loaded := backend.loaded.insert id size }.touchLoadedModel
      id).loadedResidentMemoryMb (some id) =
        backend.loadedResidentMemoryMb none := by
  rw [resident_none, loadedResidentMemoryMb, touchLoadedModel,
    AList.entries_insert_of_notMem absent, List.filter_cons_of_neg (by simp),
    filter_excluded absent]

private theorem absent_trim (absent : id ∉ backend.loaded) :
    id ∉ (backend.trimLoadedModelsToFitBudget preferred
      reservingMb).loaded := by
  apply trimLoop_invariant fun trimmed => id ∉ trimmed.loaded
  · intro trimmed candidate _ absent
    unfold unloadLoadedModel
    split
    · exact fun member => absent (AList.mem_erase.mp member).2
    · exact absent
  · exact absent

private theorem within_insert (absent : id ∉ backend.loaded)
    (fits : backend.loadedResidentMemoryMb none + size ≤
      backend.memoryLimitMb) :
    (({ backend with loaded := backend.loaded.insert id size }.touchLoadedModel
      id).trimLoadedModelsToFitBudget (some id) 0).WithinLimit := by
  rw [trim_of_fits]
  · rw [WithinLimit, resident_insert absent]
    exact fits
  · rw [resident_insert_excluded absent]
    exact (Nat.le_add_right _ size).trans fits

theorem Ordered.ensureLoaded (ordered : backend.Ordered) (loads : Bool) :
    (backend.ensureLoaded files id loads).Ordered := by
  unfold LlamaBackend.ensureLoaded
  split
  · next loaded => exact ordered.touchLoadedModel loaded
  · split
    · exact ordered
    · split
      · exact ordered
      · cases loads with
        | true => exact ordered.trim.insert.trim
        | false => exact ordered.trim

theorem WithinLimit.ensureLoaded (within : backend.WithinLimit)
    (ordered : backend.Ordered) (loads : Bool) :
    (backend.ensureLoaded files id loads).WithinLimit := by
  unfold LlamaBackend.ensureLoaded
  split
  · exact within
  · next absent =>
      split
      · exact within
      · next size found =>
          split
          · exact within
          · next small =>
              have fits := ordered.trim_fits (Nat.le_of_not_lt small)
              cases loads with
              | true => exact within_insert (absent_trim absent) fits
              | false => exact (Nat.le_add_right _ size).trans fits

theorem Ordered.call (ordered : backend.Ordered) (call : LimitCall) :
    (backend.call files call).Ordered := by
  cases call with
  | register id => exact ⟨ordered.nodup, ordered.mem_iff⟩
  | dispatch id loads =>
      rw [LlamaBackend.call]
      split
      · exact ordered.ensureLoaded loads
      · exact ordered
  | updateMemoryLimitMb value =>
      exact (ordered.limited value).trim

theorem WithinLimit.call (within : backend.WithinLimit)
    (ordered : backend.Ordered) (call : LimitCall) :
    (backend.call files call).WithinLimit := by
  cases call with
  | register id => exact within
  | dispatch id loads =>
      rw [LlamaBackend.call]
      split
      · exact within.ensureLoaded ordered loads
      · exact within
  | updateMemoryLimitMb value =>
      exact (ordered.limited value).trim_fits (Nat.zero_le _)

theorem Ordered.enters {call : LimitCall} (ordered : backend.Ordered)
    (enters : backend.Enters files call entered) : entered.Ordered := by
  cases enters with
  | updateMemoryLimitMb value =>
      exact ordered.limited value
  | reserving id loads => exact ordered
  | loaded id size => exact ordered.trim.insert

end LlamaBackend

open LlamaBackend

/-- Each call finds its own state of the disk. -/
def diskBackend (memoryLimitMb : ℕ) :
    Machine LlamaBackend (Files × LimitCall) where
  init := { memoryLimitMb }
  step backend call := some (backend.call call.1 call.2)

variable {memoryLimitMb : ℕ} {final : LlamaBackend}
variable {history : History LlamaBackend (Files × LimitCall)}

private theorem ordered_run
    (run : (diskBackend memoryLimitMb).Run history final) :
    final.Ordered ∧ final.WithinLimit := by
  induction run with
  | start => exact ⟨⟨List.nodup_nil, fun id => Iff.rfl⟩, Nat.zero_le _⟩
  | next run taken ih =>
      obtain rfl := Option.some.inj taken
      exact ⟨ih.1.call _, ih.2.call ih.1 _⟩

/-- In every state that calls lead to, the list holds the loaded models once
each, they are within the limit, and every loop that is or might be entered
ends. -/
theorem trim_terminates_within_limit
    (run : (diskBackend memoryLimitMb).Run history final) :
    final.Ordered ∧ final.TrimEnds ∧
      (∀ files call entered, final.Enters files call entered →
        entered.TrimEnds) ∧
      final.WithinLimit := by
  obtain ⟨ordered, within⟩ := ordered_run run
  exact ⟨ordered, ordered.trimEnds,
    fun files call entered enters => (ordered.enters enters).trimEnds, within⟩

private def wordFiles : Files := fun id => some id.length

/-- The third model evicts the first one, then the limit excludes the third;
a fourth evicts the second one and cannot be loaded. -/
theorem trim_terminates_within_limit_words :
    ∃ history final, (diskBackend 10).Run history final ∧
      final.loadedOrder = [] ∧ final.memoryLimitMb = 5 ∧
      final.WithinLimit := by
  obtain ⟨history, final, run, observed⟩ :=
    (diskBackend 10).exists_run_of_trace
      [(wordFiles, .register "qwen3"), (wordFiles, .register "phi4"),
        (wordFiles, .register "gemma3"), (wordFiles, .register "yi"),
        (wordFiles, .dispatch "qwen3" true), (wordFiles, .dispatch "phi4" true),
        (wordFiles, .dispatch "gemma3" true),
        (wordFiles, .updateMemoryLimitMb 5), (wordFiles, .dispatch "yi" false)]
      (fun outcome => decide (outcome.2.loadedOrder = [] ∧
        outcome.2.memoryLimitMb = 5))
      (by decide +kernel)
  obtain ⟨empty, limit⟩ := of_decide_eq_true observed
  exact ⟨history, final, run, empty, limit,
    (trim_terminates_within_limit run).2.2.2⟩

end JwSwarm.MacNode
