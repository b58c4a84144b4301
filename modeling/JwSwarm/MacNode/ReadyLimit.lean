import JwSwarm.MacNode.Backend
import JwSwarm.Transition.Machine

namespace JwSwarm.MacNode

open Data Proto Transition Machine

/-! The advertised models against the memory limit, over the backend's calls.
`files` are the artifacts on the disk. -/

inductive LimitCall where
  | register (id : ModelId)
  | dispatch (id : ModelId) (loads : Bool)
  | updateMemoryLimitMb (value : ℕ)

namespace LlamaBackend

def call (files : Files) (backend : LlamaBackend) : LimitCall → LlamaBackend
  | .register id => backend.register files id
  | .dispatch id loads =>
      if id ∈ backend.readyModels then backend.ensureLoaded files id loads
      else backend
  | .updateMemoryLimitMb value => backend.updateMemoryLimitMb files value

def ReadyFits (files : Files) (backend : LlamaBackend) : Prop :=
  ∀ id ∈ backend.ready, ∃ size,
    files id = some size ∧ size ≤ backend.memoryLimitMb

/-- The limit is not lowered below the size of a ready model that is not in
memory. -/
def lowersSafely (files : Files) (backend : LlamaBackend) :
    LimitCall → Bool
  | .updateMemoryLimitMb value =>
      backend.readyModels.keys.all fun id =>
        decide (id ∈ backend.loaded) || (files id).all (· ≤ value)
  | _ => true

variable {files : Files} {backend : LlamaBackend} {id other : ModelId}

private theorem mem_ready : id ∈ backend.ready ↔ id ∈ backend.readyModels :=
  (List.perm_insertionSort _ _).mem_iff

@[simp] theorem memoryLimitMb_unloadLoadedModel (removeFromReady : Bool) :
    (backend.unloadLoadedModel id removeFromReady).memoryLimitMb =
      backend.memoryLimitMb := by
  unfold unloadLoadedModel
  split
  · simp only
    split <;> rfl
  · rfl

@[simp] theorem memoryLimitMb_trimLoadedModelsToFitBudget
    (preferred : Option ModelId) (reservingMb : ℕ) :
    (backend.trimLoadedModelsToFitBudget preferred
      reservingMb).memoryLimitMb = backend.memoryLimitMb := by
  apply trimLoop_invariant fun trimmed =>
    trimmed.memoryLimitMb = backend.memoryLimitMb
  · intro trimmed candidate _ same
    rw [memoryLimitMb_unloadLoadedModel, same]
  · rfl

private theorem memoryLimitMb_ensureLoaded (loads : Bool) :
    (backend.ensureLoaded files id loads).memoryLimitMb =
      backend.memoryLimitMb := by
  unfold ensureLoaded
  split
  · rfl
  · split
    · rfl
    · split
      · rfl
      · simp only
        split
        · simp [touchLoadedModel]
        · simp

def unloadOversized (files : Files) (backend : LlamaBackend)
    (id : ModelId) : LlamaBackend :=
  match files id with
  | some size =>
      if backend.memoryLimitMb < size then backend.unloadLoadedModel id true
      else backend
  | none => backend

private def Oversized (files : Files) (limitMb : ℕ) (id : ModelId) : Prop :=
  ∃ size, files id = some size ∧ limitMb < size

private theorem unloadOversized_of_fits
    (fits : ¬ Oversized files backend.memoryLimitMb id) :
    backend.unloadOversized files id = backend := by
  unfold unloadOversized
  split
  · next size found => exact if_neg fun large => fits ⟨size, found, large⟩
  · rfl

private theorem unloadOversized_of_oversized
    (large : Oversized files backend.memoryLimitMb id) :
    backend.unloadOversized files id = backend.unloadLoadedModel id true := by
  obtain ⟨size, found, large⟩ := large
  rw [unloadOversized, found]
  exact if_pos large

private theorem mem_loaded_unloadLoadedModel_iff (different : other ≠ id) :
    other ∈ (backend.unloadLoadedModel id true).loaded ↔
      other ∈ backend.loaded := by
  unfold unloadLoadedModel
  split
  · exact AList.mem_erase.trans (and_iff_right different)
  · rfl

private theorem mem_readyModels_unloadLoadedModel :
    other ∈ (backend.unloadLoadedModel id true).readyModels ↔
      other ∈ backend.readyModels ∧
        ¬ (other = id ∧ other ∈ backend.loaded) := by
  unfold unloadLoadedModel
  split
  · next member =>
      have erased : other ∈ backend.readyModels.erase id ↔
          other ≠ id ∧ other ∈ backend.readyModels :=
        backend.readyModels.nodup.mem_erase_iff
      refine erased.trans ⟨?_, ?_⟩
      · rintro ⟨different, ready⟩
        exact ⟨ready, fun same => different same.1⟩
      · rintro ⟨ready, kept⟩
        refine ⟨?_, ready⟩
        rintro rfl
        exact kept ⟨rfl, member⟩
  · next absent =>
      refine (and_iff_left ?_).symm
      rintro ⟨rfl, member⟩
      exact absent member

private theorem mem_readyModels_foldl (ids : List ModelId) :
    other ∈ (ids.foldl (unloadOversized files) backend).readyModels ↔
      other ∈ backend.readyModels ∧
        ¬ (other ∈ ids ∧ other ∈ backend.loaded ∧
          Oversized files backend.memoryLimitMb other) := by
  induction ids generalizing backend with
  | nil => simp
  | cons id ids ih =>
      rw [List.foldl_cons, ih]
      by_cases large : Oversized files backend.memoryLimitMb id
      · rw [unloadOversized_of_oversized large,
          mem_readyModels_unloadLoadedModel, memoryLimitMb_unloadLoadedModel]
        by_cases same : other = id
        · subst same
          have gone : other ∉ (backend.unloadLoadedModel other true).loaded := by
            unfold unloadLoadedModel
            split
            · exact fun member => (AList.mem_erase.mp member).1 rfl
            · next absent => exact absent
          simp [gone, large]
        · rw [mem_loaded_unloadLoadedModel_iff same]
          simp [same]
      · rw [unloadOversized_of_fits large]
        have others : other ∈ id :: ids ∧ other ∈ backend.loaded ∧
              Oversized files backend.memoryLimitMb other ↔
            other ∈ ids ∧ other ∈ backend.loaded ∧
              Oversized files backend.memoryLimitMb other := by
          constructor
          · rintro ⟨member, loaded, big⟩
            rcases List.mem_cons.mp member with rfl | member
            · exact absurd big large
            · exact ⟨member, loaded, big⟩
          · rintro ⟨member, loaded, big⟩
            exact ⟨List.mem_cons_of_mem _ member, loaded, big⟩
        rw [others]

private theorem memoryLimitMb_foldl (ids : List ModelId) :
    (ids.foldl (unloadOversized files) backend).memoryLimitMb =
      backend.memoryLimitMb := by
  induction ids generalizing backend with
  | nil => rfl
  | cons id ids ih =>
      rw [List.foldl_cons, ih]
      unfold unloadOversized
      split
      · split
        · exact memoryLimitMb_unloadLoadedModel true
        · rfl
      · rfl

private theorem mem_readyModels_updateMemoryLimitMb (value : ℕ) :
    id ∈ (backend.updateMemoryLimitMb files value).readyModels ↔
      id ∈ backend.readyModels ∧
        ¬ (id ∈ backend.loaded ∧ Oversized files value id) := by
  rw [updateMemoryLimitMb, readyModels_trimLoadedModelsToFitBudget]
  refine (mem_readyModels_foldl _).trans (and_congr_right fun _ => ?_)
  apply not_congr
  constructor
  · rintro ⟨-, loaded, large⟩
    exact ⟨loaded, large⟩
  · rintro ⟨loaded, large⟩
    exact ⟨AList.mem_keys.mp loaded, loaded, large⟩

private theorem memoryLimitMb_updateMemoryLimitMb (value : ℕ) :
    (backend.updateMemoryLimitMb files value).memoryLimitMb = value := by
  rw [updateMemoryLimitMb, memoryLimitMb_trimLoadedModelsToFitBudget]
  exact memoryLimitMb_foldl _

theorem readyFits_iff : backend.ReadyFits files ↔
    ∀ id ∈ backend.readyModels, ∃ size,
      files id = some size ∧ size ≤ backend.memoryLimitMb := by
  simp only [ReadyFits, mem_ready]

theorem ReadyFits.register (fits : backend.ReadyFits files) :
    (backend.register files id).ReadyFits files := by
  rw [readyFits_iff] at fits ⊢
  intro other registered
  simp only [LlamaBackend.register] at registered
  split at registered
  · next own =>
      rcases List.mem_insert_iff.mp registered with rfl | member
      · obtain ⟨size, found, small⟩ := (Option.any_eq_true _ _).mp own
        exact ⟨size, found, of_decide_eq_true small⟩
      · exact fits other member
  · exact fits other (List.mem_of_mem_erase registered)

theorem ReadyFits.dispatch (fits : backend.ReadyFits files) (loads : Bool) :
    (backend.ensureLoaded files id loads).ReadyFits files := by
  rw [readyFits_iff] at fits ⊢
  rw [readyModels_ensureLoaded, memoryLimitMb_ensureLoaded]
  exact fits

/-- Lowering the limit keeps the promise exactly when the models it excludes
are in memory. -/
theorem ReadyFits.updateMemoryLimitMb_iff (fits : backend.ReadyFits files)
    (value : ℕ) :
    (backend.updateMemoryLimitMb files value).ReadyFits files ↔
      backend.lowersSafely files (.updateMemoryLimitMb value) = true := by
  rw [readyFits_iff] at fits ⊢
  rw [lowersSafely, List.all_eq_true, memoryLimitMb_updateMemoryLimitMb]
  simp only [mem_readyModels_updateMemoryLimitMb]
  apply forall_congr'
  intro id
  constructor
  · intro fit ready
    obtain ⟨size, found, -⟩ := fits id ready
    by_cases loaded : id ∈ backend.loaded
    · simp [loaded]
    · obtain ⟨own, same, small⟩ := fit ⟨ready, fun both => loaded both.1⟩
      simp [loaded, same, small]
  · rintro safe ⟨ready, kept⟩
    obtain ⟨size, found, -⟩ := fits id ready
    refine ⟨size, found, Nat.le_of_not_lt fun large => ?_⟩
    have safe := safe ready
    have resident : id ∈ backend.loaded := by
      simpa [found, Nat.not_le.mpr large] using safe
    exact kept ⟨resident, size, found, large⟩

private theorem ReadyFits.call_iff (fits : backend.ReadyFits files)
    (call : LimitCall) :
    (backend.call files call).ReadyFits files ↔
      backend.lowersSafely files call = true := by
  cases call with
  | register id => exact iff_of_true fits.register rfl
  | dispatch id loads =>
      apply iff_of_true _ rfl
      rw [LlamaBackend.call]
      split
      · exact fits.dispatch loads
      · exact fits
  | updateMemoryLimitMb value => exact fits.updateMemoryLimitMb_iff value

end LlamaBackend

open LlamaBackend

def limitedBackend (files : Files) (memoryLimitMb : ℕ) :
    Machine LlamaBackend LimitCall where
  init := { memoryLimitMb }
  step backend call := some (backend.call files call)

variable {files : Files} {memoryLimitMb : ℕ} {final : LlamaBackend}
variable {history : History LlamaBackend LimitCall}

def letterFiles : Files := fun id => if id = "m" then some 5 else none

end JwSwarm.MacNode
