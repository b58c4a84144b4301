import JwSwarm.LinuxNode.Node
import JwSwarm.LinuxNode.Residency

namespace JwSwarm.WindowsNode

open Data Proto Transition Machine

/-! The Windows backend: the registered models and those in memory. -/

/-- The artifact in a model's directory, if there is one, and its size in MB,
if that can be read. -/
abbrev Artifact := Option (Option ℕ)

structure BackendManager where
  ready : KeySet ModelId := ∅
  loaded : AList fun _ : ModelId => ℕ := ∅
  loadedOrder : List ModelId := []
  memoryLimitMb : ℕ

inductive LoadError where
  | noArtifact
  | loadFailed

namespace BackendManager

def new (memoryLimitMb : ℕ) : BackendManager where
  memoryLimitMb := if memoryLimitMb = 0 then 24000 else memoryLimitMb

def register (backend : BackendManager) (id : ModelId) (file : Artifact) :
    BackendManager :=
  { backend with
    ready :=
      match file with
      | some (some sizeMb) =>
          if backend.memoryLimitMb < sizeMb then backend.ready.erase id
          else backend.ready.insert id
      | _ => backend.ready.erase id }

def residentMb (backend : BackendManager) : ℕ :=
  (backend.loaded.entries.map Sigma.snd).sum

def unload (backend : BackendManager) (id : ModelId) : BackendManager :=
  { backend with
    loaded := backend.loaded.erase id
    loadedOrder := backend.loadedOrder.erase id }

/-- One turn of the loop in `TrimLoadedToBudget`, if there is one. -/
def trimTurn (preferred : ModelId) (reservingMb : ℕ)
    (backend : BackendManager) : Option BackendManager :=
  if backend.loadedOrder.isEmpty then none
  else if backend.residentMb + reservingMb ≤ backend.memoryLimitMb then none
  else
    (backend.loadedOrder.find? fun id => id ≠ preferred).map backend.unload

def trimLoadedToBudget (backend : BackendManager) (preferred : ModelId)
    (reservingMb : ℕ) : BackendManager :=
  Lru.untilNone (trimTurn preferred reservingMb) backend.loadedOrder.length
    backend

def load (backend : BackendManager) (id : ModelId) (sizeMb : ℕ) :
    BackendManager :=
  { backend with loaded := backend.loaded.insert id sizeMb }

def touch (backend : BackendManager) (id : ModelId) : BackendManager :=
  { backend with loadedOrder := backend.loadedOrder.erase id ++ [id] }

/-- `loads` tells whether the inference library loads the file. -/
def ensureLoaded (backend : BackendManager) (id : ModelId) (file : Artifact)
    (loads : Bool) : BackendManager × Except LoadError ℕ :=
  match backend.loaded.lookup id with
  | some sizeMb => (backend.touch id, .ok sizeMb)
  | none =>
      match file with
      | none => (backend, .error .noArtifact)
      | some size =>
          let sizeMb := size.getD 1
          let trimmed := backend.trimLoadedToBudget id sizeMb
          if loads then ((trimmed.load id sizeMb).touch id, .ok sizeMb)
          else (trimmed, .error .loadFailed)

def dispatch (backend : BackendManager) (id : ModelId) (file : Artifact)
    (loads : Bool) : BackendManager :=
  if id ∈ backend.ready then (backend.ensureLoaded id file loads).1
  else backend

variable {backend : BackendManager} {limitMb reservingMb : ℕ}
variable {id preferred : ModelId} {entries : List (ModelId × ℕ)}
variable {lru : LruCache ModelId limitMb} {loads : Bool}
variable {ready : KeySet ModelId}

/-- The table and the list hold the entries; the rest is as given. -/
structure Holds (limitMb : ℕ) (ready : KeySet ModelId)
    (backend : BackendManager) (entries : List (ModelId × ℕ)) : Prop where
  limit : backend.memoryLimitMb = limitMb
  ready : backend.ready = ready
  tabled : Tabled backend.loaded backend.loadedOrder entries

theorem Holds.mem_iff (holds : Holds limitMb ready backend entries) :
    id ∈ backend.loaded ↔ id ∈ Lru.keys entries := by
  rw [holds.tabled.mem_iff, holds.tabled.order]

theorem Holds.unload {entry : ModelId × ℕ} {rest : List (ModelId × ℕ)}
    (holds : Holds limitMb ready backend (entry :: rest)) :
    Holds limitMb ready (backend.unload entry.1) rest where
  limit := holds.limit
  ready := holds.ready
  tabled := by
    have evicted := holds.tabled.evicted
    rwa [← holds.tabled.erase_order] at evicted

theorem Holds.trimTurn {entry : ModelId × ℕ} {rest : List (ModelId × ℕ)}
    (holds : Holds limitMb ready backend (entry :: rest))
    (absent : preferred ∉ Lru.keys (entry :: rest))
    (tight : limitMb < Lru.totalSize (entry :: rest) + reservingMb) :
    backend.trimTurn preferred reservingMb =
      some (backend.unload entry.1) := by
  have order : backend.loadedOrder = entry.1 :: Lru.keys rest :=
    holds.tabled.order
  have different : entry.1 ≠ preferred :=
    fun same => absent (same ▸ List.mem_cons_self)
  rw [BackendManager.trimTurn, residentMb, holds.tabled.total, holds.limit,
    if_neg (Nat.not_le_of_lt tight), order,
    List.find?_cons_of_pos (by simpa using different)]
  rfl

theorem Holds.trimLoadedToBudget (holds : Holds limitMb ready backend entries)
    (absent : preferred ∉ Lru.keys entries) :
    Holds limitMb ready (backend.trimLoadedToBudget preferred reservingMb)
      (Lru.evict limitMb reservingMb entries) := by
  have enough : entries.length ≤ backend.loadedOrder.length := by
    rw [holds.tabled.order, Lru.keys, List.length_map]
  refine (Lru.evict_untilNone (fun backend entries =>
    Holds limitMb ready backend entries ∧ preferred ∉ Lru.keys entries) ?_ ?_
    ⟨holds, absent⟩ enough).1
  · rintro backend entries ⟨holds, -⟩ done
    rw [BackendManager.trimTurn, residentMb, holds.tabled.total, holds.limit]
    rcases done with rfl | fits
    · have order : backend.loadedOrder = [] := holds.tabled.order
      rw [order]
      rfl
    · rw [if_pos fits, ite_self]
  · rintro backend entry rest ⟨holds, absent⟩ tight
    exact ⟨_, holds.trimTurn absent tight, holds.unload,
      fun member => absent (List.mem_cons_of_mem _ member)⟩

theorem Holds.touch (holds : Holds limitMb ready backend entries)
    (member : id ∈ backend.loaded) :
    Holds limitMb ready (backend.touch id) (Lru.touch id entries) where
  limit := holds.limit
  ready := holds.ready
  tabled := by
    have touched := holds.tabled.touched (holds.tabled.mem_iff.mp member)
    rwa [← holds.tabled.erase_order] at touched

theorem Holds.load {size : ℕ} (holds : Holds limitMb ready backend entries)
    (absent : id ∉ backend.loaded) :
    Holds limitMb ready ((backend.load id size).touch id)
      (entries ++ [(id, size)]) where
  limit := holds.limit
  ready := holds.ready
  tabled := by
    have fresh : id ∉ backend.loadedOrder := by
      intro member
      exact absent (holds.tabled.mem_iff.mpr member)
    have inserted : Tabled (backend.loaded.insert id size) _ _ :=
      holds.tabled.inserted fresh
    rwa [← holds.tabled.erase_order] at inserted

theorem Holds.ensureLoaded {size : ℕ}
    (holds : Holds limitMb ready backend lru.entries) (small : size ≤ limitMb) :
    Holds limitMb ready (backend.ensureLoaded id (some (some size)) loads).1
      (lru.request id (some size) loads).entries := by
  unfold BackendManager.ensureLoaded
  split
  · next sizeMb found =>
      have member : id ∈ backend.loaded :=
        AList.lookup_isSome.mp (by rw [found]; rfl)
      rw [LruCache.request_hit (holds.mem_iff.mp member)]
      exact holds.touch member
  · next found =>
      have absent : id ∉ lru.keys := fun member =>
        AList.lookup_eq_none.mp found (holds.mem_iff.mpr member)
      have trimmed : Holds limitMb ready (backend.trimLoadedToBudget id size)
          (lru.evict size).entries := holds.trimLoadedToBudget absent
      cases loads with
      | false =>
          rw [LruCache.request_failed absent small]
          exact trimmed
      | true =>
          rw [LruCache.request_loaded absent small]
          apply trimmed.load
          intro member
          exact absent (LruCache.keys_evict_subset (trimmed.mem_iff.mp member))

end BackendManager

/-- `artifacts` are what the model directories of both hold. -/
structure Nodes where
  artifacts : ModelId → Artifact := fun _ => none
  linuxReady : KeySet ModelId := ∅
  linux : LinuxNode.Residency := {}
  windows : BackendManager

/-- An artifact changes only when it is registered again; `load` is what the
inference library answers on both. -/
inductive Work where
  | register (id : ModelId) (file : Artifact)
  | dispatch (id : ModelId) (load : Except String Unit)

def linuxCall (nodes : Nodes) (id : ModelId) (load : Except String Unit) :
    LinuxNode.Call where
  model := id
  ready := decide (id ∈ nodes.linuxReady)
  sizeMb := (nodes.artifacts id).join
  load

def stepNodes (limitMb : ℕ) (nodes : Nodes) : Work → Nodes
  | .register id file => {
      artifacts := Function.update nodes.artifacts id file
      linuxReady :=
        LinuxNode.registerReady nodes.linuxReady limitMb id file.join
      linux := nodes.linux
      windows := nodes.windows.register id file }
  | .dispatch id load => { nodes with
      linux := (nodes.linux.generate limitMb (linuxCall nodes id load)).1
      windows := nodes.windows.dispatch id (nodes.artifacts id) load.isOk }

def bothNodes (limitMb : ℕ) : Machine Nodes Work where
  init := { windows := .new limitMb }
  step nodes work := some (stepNodes limitMb nodes work)

variable {limitMb : ℕ} {nodes final : Nodes} {history : History Nodes Work}
variable {id : ModelId} {file : Artifact} {load : Except String Unit}

/-- Both backends hold one cache, and what they have registered fits. -/
structure Agree (limitMb : ℕ) (nodes : Nodes) : Prop where
  cache : ∃ lru : LruCache ModelId limitMb, nodes.linux.Represents lru ∧
    BackendManager.Holds limitMb nodes.linuxReady nodes.windows lru.entries
  fits : ∀ id ∈ nodes.linuxReady, ∃ size,
    nodes.artifacts id = some (some size) ∧ size ≤ limitMb

private theorem ready_register {windows : BackendManager}
    {entries : List (ModelId × ℕ)} {ready : KeySet ModelId}
    (holds : BackendManager.Holds limitMb ready windows entries) :
    (windows.register id file).ready =
      LinuxNode.registerReady ready limitMb id file.join := by
  unfold BackendManager.register
  rw [holds.limit, holds.ready]
  cases file with
  | none => rfl
  | some size =>
      cases size with
      | none => rfl
      | some size => rfl

private theorem fits_register {ready : KeySet ModelId} {other : ModelId}
    (registered : other ∈ LinuxNode.registerReady ready limitMb id file.join) :
    (other = id ∧ ∃ size, file = some (some size) ∧ size ≤ limitMb) ∨
      (other ≠ id ∧ other ∈ ready) := by
  have erased (member : other ∈ ready.erase id) : other ≠ id ∧ other ∈ ready :=
    ready.nodup.mem_erase_iff.mp member
  match file with
  | none => exact .inr (erased registered)
  | some none => exact .inr (erased registered)
  | some (some size) =>
      simp only [Option.join_some, LinuxNode.registerReady] at registered
      split at registered
      · exact .inr (erased registered)
      · next small =>
          by_cases same : other = id
          · exact .inl ⟨same, size, rfl, Nat.le_of_not_lt small⟩
          · rcases List.mem_insert_iff.mp registered with own | member
            · exact absurd own same
            · exact .inr ⟨same, member⟩

theorem Agree.register (agree : Agree limitMb nodes) :
    Agree limitMb (stepNodes limitMb nodes (.register id file)) := by
  obtain ⟨lru, linux, windows⟩ := agree.cache
  refine ⟨⟨lru, linux, windows.limit, ready_register windows,
    windows.tabled⟩, ?_⟩
  intro other registered
  rcases fits_register registered with ⟨rfl, fits⟩ | ⟨different, member⟩
  · simpa [stepNodes] using fits
  · simpa [stepNodes, different] using agree.fits other member

theorem Agree.dispatch (agree : Agree limitMb nodes) :
    Agree limitMb (stepNodes limitMb nodes (.dispatch id load)) := by
  obtain ⟨lru, linux, windows⟩ := agree.cache
  have stepped : nodes.linux.Stepped lru (linuxCall nodes id load) :=
    linux.stepped
  refine ⟨⟨_, stepped.represents, ?_⟩, agree.fits⟩
  simp only [stepNodes, BackendManager.dispatch, windows.ready]
  by_cases ready : id ∈ nodes.linuxReady
  · obtain ⟨size, file, small⟩ := agree.fits id ready
    rw [if_pos ready, LinuxNode.Call.request, linuxCall,
      if_pos (decide_eq_true ready), file]
    exact windows.ensureLoaded small
  · rw [if_neg ready, LinuxNode.Call.request, linuxCall,
      if_neg (by simpa using ready)]
    exact windows

private theorem agree_run (nonzero : limitMb ≠ 0)
    (run : (bothNodes limitMb).Run history final) : Agree limitMb final := by
  apply Run.invariant _ _ run
  · refine ⟨⟨.empty, .empty, if_neg nonzero, rfl, .empty⟩, ?_⟩
    intro id registered
    cases registered
  · intro history before work after _ agree taken
    obtain rfl := Option.some.inj taken
    cases work with
    | register id file => exact agree.register
    | dispatch id load => exact agree.dispatch

/-- Given the same work, the two backends have the same models in memory, of
the same sizes and in the same order of use. -/
theorem residency_agrees (nonzero : limitMb ≠ 0)
    (run : (bothNodes limitMb).Run history final) :
    final.windows.loadedOrder = final.linux.loadedOrder ∧
      ∀ id, final.windows.loaded.lookup id = final.linux.loaded.lookup id := by
  obtain ⟨lru, linux, windows⟩ := (agree_run nonzero run).cache
  constructor
  · rw [windows.tabled.order, linux.order]
  · intro id
    apply AList.perm_lookup
    exact windows.tabled.loaded.trans (Tabled.loaded linux).symm

/-- A model that does not load costs both the same other one. -/
theorem residency_agrees_failing :
    ∃ history final, (bothNodes 10).Run history final ∧
      final.linux.loadedOrder = ["b"] ∧
      final.windows.loadedOrder = final.linux.loadedOrder := by
  obtain ⟨history, final, run, observed⟩ :=
    (bothNodes 10).exists_run_of_trace
      [.register "a" (some (some 4)), .register "b" (some (some 5)),
        .register "c" (some (some 3)), .dispatch "a" (.ok ()),
        .dispatch "b" (.ok ()), .dispatch "c" (.error "corrupt")]
      (fun outcome => decide (outcome.2.linux.loadedOrder = ["b"]))
      (by decide +kernel)
  exact ⟨history, final, run, of_decide_eq_true observed,
    (residency_agrees (by decide) run).1⟩

end JwSwarm.WindowsNode
