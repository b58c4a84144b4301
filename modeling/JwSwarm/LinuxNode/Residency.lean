import JwSwarm.Data.Lru
import JwSwarm.LinuxNode.Worker
import JwSwarm.Transition.Machine

namespace JwSwarm.LinuxNode

open Data Proto Transition Machine

/-! The models that the backend's worker keeps in memory. The worker owns
`loaded`, and it alone changes `loadedOrder`, which the others only read. -/

/-- `loaded` holds the resident size of each model, `loadedOrder` their order
of use, the oldest first. -/
structure Residency where
  loaded : AList fun _ : ModelId => ℕ := ∅
  loadedOrder : List ModelId := []

/-- A job that reaches the worker. `ready` tells whether its model is still
registered, `sizeMb` is the size of the artifact that is found for it and
`load` the library's answer. -/
structure Call where
  model : ModelId
  ready : Bool
  sizeMb : Option ℕ
  load : Except String Unit

namespace Residency

def residentMb (cache : Residency) (preferred : Option ModelId) : ℕ :=
  ((cache.loaded.entries.filter fun entry =>
    some entry.1 ≠ preferred).map Sigma.snd).sum

def unload (cache : Residency) (id : ModelId) : Residency where
  loaded := cache.loaded.erase id
  loadedOrder := cache.loadedOrder.filter fun other => other ≠ id

/-- One turn of the loop in `trim_loaded_to_budget`; `none` is its `return`. -/
def trimTurn (limitMb : ℕ) (preferred : Option ModelId) (reservingMb : ℕ)
    (cache : Residency) : Option Residency :=
  if cache.residentMb preferred + reservingMb ≤ limitMb then none
  else
    (cache.loadedOrder.find? fun id =>
      some id ≠ preferred ∧ id ∈ cache.loaded).map cache.unload

/-- Every turn unloads a model. -/
def trimLoadedToBudget (cache : Residency) (limitMb : ℕ)
    (preferred : Option ModelId) (reservingMb : ℕ) : Residency :=
  Lru.untilNone (trimTurn limitMb preferred reservingMb)
    cache.loaded.entries.length cache

def load (cache : Residency) (id : ModelId) (sizeMb : ℕ) : Residency :=
  { cache with loaded := cache.loaded.insert id sizeMb }

def touchLoaded (cache : Residency) (id : ModelId) : Residency :=
  { cache with
    loadedOrder :=
      cache.loadedOrder.filter (fun other => other ≠ id) ++ [id] }

/-- The end of the residency part of `generate`; `none` is what its `expect`
rules out. -/
def serve (cache : Residency) (limitMb : ℕ) (id : ModelId) :
    Residency × Except GenerateError (Option ℕ) :=
  let trimmed := (cache.touchLoaded id).trimLoadedToBudget limitMb (some id) 0
  (trimmed, .ok (trimmed.loaded.lookup id))

/-- What `generate` does before it reads the prompt. -/
def generate (cache : Residency) (limitMb : ℕ) (call : Call) :
    Residency × Except GenerateError (Option ℕ) :=
  if call.ready then
    if call.model ∈ cache.loaded then cache.serve limitMb call.model
    else
      match call.sizeMb with
      | none => (cache, .error (.modelFileMissing call.model))
      | some sizeMb =>
          if limitMb < sizeMb then
            (cache, .error (.modelTooLarge call.model sizeMb limitMb))
          else
            let trimmed := cache.trimLoadedToBudget limitMb none sizeMb
            match call.load with
            | .error cause => (trimmed, .error (.loadFailed call.model cause))
            | .ok () =>
                (trimmed.load call.model sizeMb).serve limitMb call.model
  else (cache, .error (.modelFileMissing call.model))

end Residency

def residencyOf (limitMb : ℕ) : Machine Residency Call where
  init := {}
  step cache call := some (cache.generate limitMb call).1

namespace Residency

variable {limitMb reservingMb : ℕ} {preferred : Option ModelId}
variable {cache next : Residency} {id : ModelId} {call : Call}

private theorem length_trimTurn
    (turned : cache.trimTurn limitMb preferred reservingMb = some next) :
    next.loaded.entries.length < cache.loaded.entries.length := by
  unfold trimTurn at turned
  split at turned
  · cases turned
  · obtain ⟨id, found, rfl⟩ := Option.map_eq_some_iff.mp turned
    have candidate := List.find?_some found
    have member : id ∈ cache.loaded.keys :=
      AList.mem_keys.mp (of_decide_eq_true candidate).2
    have shorter := List.length_erase_of_mem member
    rw [← AList.keys_erase] at shorter
    have before : cache.loaded.keys.length = cache.loaded.entries.length :=
      List.length_map _
    have after : (cache.loaded.erase id).keys.length =
        (cache.unload id).loaded.entries.length :=
      List.length_map _
    have positive := List.length_pos_of_mem member
    omega

private theorem trimTurn_trimLoadedToBudget :
    (cache.trimLoadedToBudget limitMb preferred reservingMb).trimTurn limitMb
      preferred reservingMb = none :=
  Lru.turn_untilNone (fun cache => cache.loaded.entries.length)
    length_trimTurn (Nat.le_refl _)

variable {entries : List (ModelId × ℕ)}

theorem residentMb_none : cache.residentMb none =
    (cache.loaded.entries.map Sigma.snd).sum := by
  simp [residentMb]

private theorem residentMb_le :
    cache.residentMb preferred ≤ cache.residentMb none := by
  rw [residentMb_none]
  have others : List.Sublist
      (cache.loaded.entries.filter fun entry => some entry.1 ≠ preferred)
      cache.loaded.entries := List.filter_sublist
  exact (others.map _).sum_le_sum fun size _ => Nat.zero_le size

private theorem trimLoadedToBudget_of_fits
    (fits : cache.residentMb preferred + reservingMb ≤ limitMb) :
    cache.trimLoadedToBudget limitMb preferred reservingMb = cache :=
  Lru.untilNone_of_none (if_pos fits)

private theorem trimTurn_oldest {entry : ModelId × ℕ}
    {rest : List (ModelId × ℕ)}
    (tabled : Tabled cache.loaded cache.loadedOrder (entry :: rest))
    (tight : limitMb < Lru.totalSize (entry :: rest) + reservingMb) :
    cache.trimTurn limitMb none reservingMb = some (cache.unload entry.1) := by
  have order : cache.loadedOrder = entry.1 :: Lru.keys rest := tabled.order
  have member : entry.1 ∈ cache.loaded := by
    rw [tabled.mem_iff, order]
    exact List.mem_cons_self
  rw [trimTurn, residentMb_none, tabled.total,
    if_neg (Nat.not_le_of_lt tight), order,
    List.find?_cons_of_pos (by simpa using member)]
  rfl

theorem tabled_trimLoadedToBudget
    (tabled : Tabled cache.loaded cache.loadedOrder entries) :
    Tabled (cache.trimLoadedToBudget limitMb none reservingMb).loaded
      (cache.trimLoadedToBudget limitMb none reservingMb).loadedOrder
      (Lru.evict limitMb reservingMb entries) := by
  apply Lru.evict_untilNone
    (fun cache : Residency => Tabled cache.loaded cache.loadedOrder) _ _ tabled
  · have whole := tabled.loaded.length_eq
    rw [List.length_map] at whole
    omega
  · intro cache entries tabled done
    rw [trimTurn, residentMb_none, tabled.total]
    rcases done with rfl | fits
    · split
      · rfl
      · have order : cache.loadedOrder = [] := tabled.order
        rw [order]
        rfl
    · rw [if_pos fits]
  · intro cache entry rest tabled tight
    exact ⟨_, trimTurn_oldest tabled tight, tabled.evicted⟩

/-- A model in memory stays there when the others are trimmed. -/
theorem serve_eq
    (tabled : Tabled (cache.touchLoaded id).loaded
      (cache.touchLoaded id).loadedOrder entries)
    (fits : Lru.totalSize entries ≤ limitMb) :
    cache.serve limitMb id =
      (cache.touchLoaded id, .ok (cache.loaded.lookup id)) := by
  have total : (cache.touchLoaded id).residentMb none =
      Lru.totalSize entries := residentMb_none.trans tabled.total
  have part : (cache.touchLoaded id).residentMb (some id) ≤
      (cache.touchLoaded id).residentMb none := residentMb_le
  rw [serve, trimLoadedToBudget_of_fits (by omega)]
  rfl

inductive Generated (limitMb : ℕ) (cache : Residency) (call : Call) :
    Residency × Except GenerateError (Option ℕ) → Prop
  | unregistered (ready : call.ready = false) :
      Generated limitMb cache call
        (cache, .error (.modelFileMissing call.model))
  | hit (ready : call.ready = true) (member : call.model ∈ cache.loaded) :
      Generated limitMb cache call (cache.serve limitMb call.model)
  | missing (ready : call.ready = true) (absent : call.model ∉ cache.loaded)
      (file : call.sizeMb = none) :
      Generated limitMb cache call
        (cache, .error (.modelFileMissing call.model))
  | large {sizeMb : ℕ} (ready : call.ready = true)
      (absent : call.model ∉ cache.loaded) (file : call.sizeMb = some sizeMb)
      (large : limitMb < sizeMb) :
      Generated limitMb cache call
        (cache, .error (.modelTooLarge call.model sizeMb limitMb))
  | failed {sizeMb : ℕ} {cause : String} (ready : call.ready = true)
      (absent : call.model ∉ cache.loaded) (file : call.sizeMb = some sizeMb)
      (small : sizeMb ≤ limitMb) (load : call.load = .error cause) :
      Generated limitMb cache call
        (cache.trimLoadedToBudget limitMb none sizeMb,
          .error (.loadFailed call.model cause))
  | loaded {sizeMb : ℕ} (ready : call.ready = true)
      (absent : call.model ∉ cache.loaded) (file : call.sizeMb = some sizeMb)
      (small : sizeMb ≤ limitMb) (load : call.load = .ok ()) :
      Generated limitMb cache call
        (((cache.trimLoadedToBudget limitMb none sizeMb).load call.model
          sizeMb).serve limitMb call.model)

private theorem generate_generated (limitMb : ℕ) (cache : Residency)
    (call : Call) :
    Generated limitMb cache call (cache.generate limitMb call) := by
  unfold generate
  split
  · next ready =>
      split
      · next member => exact .hit ready member
      · next absent =>
          split
          · next file => exact .missing ready absent file
          · next sizeMb file =>
              split
              · next large => exact .large ready absent file large
              · next small =>
                  have small := Nat.le_of_not_lt small
                  simp only
                  split
                  · next cause load =>
                      exact .failed ready absent file small load
                  · next load => exact .loaded ready absent file small load
  · next ready => exact .unregistered (Bool.not_eq_true _ ▸ ready)

end Residency

def Call.loads (call : Call) : Bool := call.load.isOk

def Call.request {limitMb : ℕ} (call : Call)
    (lru : LruCache ModelId limitMb) : LruCache ModelId limitMb :=
  if call.ready then lru.request call.model call.sizeMb call.loads else lru

def Call.used (limitMb : ℕ) (cache : Residency) (call : Call) :
    Option ModelId :=
  match (cache.generate limitMb call).2 with
  | .ok _ => some call.model
  | .error _ => none

namespace Residency

variable {limitMb : ℕ} {cache : Residency} {id : ModelId} {call : Call}
variable {lru : LruCache ModelId limitMb}

def Represents (cache : Residency) (lru : LruCache ModelId limitMb) : Prop :=
  Tabled cache.loaded cache.loadedOrder lru.entries

theorem Represents.mem_iff (represents : cache.Represents lru) :
    id ∈ cache.loaded ↔ id ∈ lru.keys := by
  rw [Tabled.mem_iff represents, represents.order]
  rfl

structure Stepped (cache : Residency) (lru : LruCache ModelId limitMb)
    (call : Call) : Prop where
  represents : (cache.generate limitMb call).1.Represents (call.request lru)
  used : call.used limitMb cache =
    if call.ready then lru.usedBy call.model call.sizeMb call.loads else none
  item : ∀ item, (cache.generate limitMb call).2 = .ok item →
    item.isSome = true

theorem Represents.served (represents : cache.Represents lru)
    (member : id ∈ cache.loaded) :
    cache.serve limitMb id =
        (cache.touchLoaded id, .ok (cache.loaded.lookup id)) ∧
      (cache.touchLoaded id).Represents (lru.touch id) := by
  have touched : (cache.touchLoaded id).Represents (lru.touch id) :=
    Tabled.touched represents ((Tabled.mem_iff represents).mp member)
  exact ⟨serve_eq touched (lru.touch id).fits, touched⟩

theorem Represents.loaded {size : ℕ} (represents : cache.Represents lru)
    (fresh : id ∉ lru.keys)
    (fits : Lru.totalSize lru.entries + size ≤ limitMb) :
    (cache.load id size).serve limitMb id =
        ((cache.load id size).touchLoaded id, .ok (some size)) ∧
      ((cache.load id size).touchLoaded id).Represents
        (lru.insert id size fresh fits) := by
  have absent : id ∉ cache.loadedOrder := by
    rw [represents.order]
    exact fresh
  have inserted : ((cache.load id size).touchLoaded id).Represents
      (lru.insert id size fresh fits) := Tabled.inserted represents absent
  refine ⟨?_, inserted⟩
  rw [serve_eq inserted (lru.insert id size fresh fits).fits]
  simp [load]

theorem Stepped.ready {next : LruCache ModelId limitMb}
    {outcome : Residency × Except GenerateError (Option ℕ)}
    (ready : call.ready = true)
    (generated : cache.generate limitMb call = outcome)
    (request : lru.request call.model call.sizeMb call.loads = next)
    (represents : outcome.1.Represents next)
    (answer : match outcome.2 with
      | .ok item => item.isSome = true ∧ call.model ∈ next.keys
      | .error _ => call.model ∉ next.keys) : Stepped cache lru call := by
  subst generated
  subst request
  constructor
  · rwa [Call.request, if_pos ready]
  · rw [if_pos ready, Call.used]
    split
    · next done =>
        rw [done] at answer
        exact (LruCache.usedBy_of_mem answer.2).symm
    · next failed =>
        rw [failed] at answer
        exact (LruCache.usedBy_of_notMem answer).symm
  · intro item done
    rw [done] at answer
    exact answer.1

theorem Represents.stepped (represents : cache.Represents lru) :
    Stepped cache lru call := by
  generalize generated : cache.generate limitMb call = outcome
  have way := generated ▸ generate_generated limitMb cache call
  cases way with
  | unregistered ready =>
      constructor
      · rw [generated, Call.request, ready]
        exact represents
      · rw [Call.used, generated, ready]
        rfl
      · intro item done
        rw [generated] at done
        cases done
  | hit ready member =>
      obtain ⟨served, touched⟩ := represents.served member
      have hit := represents.mem_iff.mp member
      apply Stepped.ready ready generated (LruCache.request_hit hit)
      · rw [served]
        exact touched
      · rw [served]
        refine ⟨AList.lookup_isSome.mpr member, ?_⟩
        rw [LruCache.keys_touch hit]
        exact List.mem_append_right _ List.mem_cons_self
  | missing ready absent file =>
      have absent := fun member => absent (represents.mem_iff.mpr member)
      refine Stepped.ready ready generated ?_ represents absent
      rw [file]
      exact LruCache.request_none absent
  | large ready absent file large =>
      have absent := fun member => absent (represents.mem_iff.mpr member)
      refine Stepped.ready ready generated ?_ represents absent
      rw [file]
      exact LruCache.request_large absent large
  | @failed sizeMb cause ready absent file small load =>
      have absent := fun member => absent (represents.mem_iff.mpr member)
      have trimmed : (cache.trimLoadedToBudget limitMb none sizeMb).Represents
          (lru.evict sizeMb) := tabled_trimLoadedToBudget represents
      refine Stepped.ready ready generated ?_ trimmed
        fun member => absent (LruCache.keys_evict_subset member)
      rw [file, Call.loads, load]
      exact LruCache.request_failed absent small
  | @loaded sizeMb ready absent file small load =>
      have absent := fun member => absent (represents.mem_iff.mpr member)
      have trimmed : (cache.trimLoadedToBudget limitMb none sizeMb).Represents
          (lru.evict sizeMb) := tabled_trimLoadedToBudget represents
      have fresh : call.model ∉ (lru.evict sizeMb).keys :=
        fun member => absent (LruCache.keys_evict_subset member)
      have fits : Lru.totalSize (lru.evict sizeMb).entries + sizeMb ≤ limitMb :=
        Lru.totalSize_evict small
      obtain ⟨served, inserted⟩ := trimmed.loaded fresh fits
      have request : lru.request call.model call.sizeMb call.loads =
          (lru.evict sizeMb).insert call.model sizeMb fresh fits := by
        rw [file, Call.loads, load]
        exact LruCache.request_loaded absent small
      apply Stepped.ready ready generated request
      · rw [served]
        exact inserted
      · rw [served]
        refine ⟨rfl, ?_⟩
        simp [LruCache.keys, LruCache.insert, Lru.keys]

def sizeFrom (cache : Residency) (count : ℕ) : ℕ :=
  ((cache.loadedOrder.drop count).map fun id =>
    (cache.loaded.lookup id).getD 0).sum

def evicted (before after : Residency) : List ModelId :=
  before.loadedOrder.filter fun id => id ∉ after.loaded

end Residency

def Call.incomingMb (limitMb : ℕ) (cache : Residency) (call : Call) : ℕ :=
  if call.ready ∧ call.model ∉ cache.loaded then
    (call.sizeMb.filter fun size => size ≤ limitMb).getD 0
  else 0

def uses (limitMb : ℕ) (history : History Residency Call) : List ModelId :=
  history.filterMap fun taken => taken.2.used limitMb taken.1

/-- What one call makes of the cache that the calls before it have left. -/
structure LruCall (limitMb : ℕ) (history : History Residency Call)
    (before : Residency) (call : Call) (after : Residency)
    (outcome : Except GenerateError (Option ℕ)) : Prop where
  listed : after.loadedOrder.Nodup ∧
    ∀ id, id ∈ after.loadedOrder ↔ id ∈ after.loaded
  ordered : after.loadedOrder =
    (uses limitMb (history ++ [(before, call)])).dedup.filter
      fun id => id ∈ after.loaded
  budget : after.residentMb none ≤ limitMb
  evicted : ∃ count,
    before.evicted after = before.loadedOrder.take count ∧
    IsLeast {count | before.sizeFrom count +
      call.incomingMb limitMb before ≤ limitMb} count
  kept : call.model ∈ before.loaded → call.model ∈ after.loaded
  item : ∀ item, outcome = .ok item → item.isSome = true

section Calls

variable {limitMb : ℕ} {history : History Residency Call}
variable {cache : Residency} {call : Call}
variable {lru : LruCache ModelId limitMb}

private theorem uses_concat : uses limitMb (history ++ [(cache, call)]) =
    uses limitMb history ++ (call.used limitMb cache).toList := by
  rw [uses, List.filterMap_append]
  cases used : call.used limitMb cache with
  | none => simp [uses, used]
  | some id => simp [uses, used]

theorem Residency.Stepped.ordered (stepped : cache.Stepped lru call)
    (ordered : List.Sublist lru.keys (uses limitMb history).dedup) :
    List.Sublist (call.request lru).keys
      (uses limitMb (history ++ [(cache, call)])).dedup := by
  rw [uses_concat, stepped.used, Call.request]
  split
  · exact LruCache.keys_request_sublist ordered
  · simpa using ordered

private theorem exists_represents
    (run : (residencyOf limitMb).Run history cache) :
    ∃ lru : LruCache ModelId limitMb, cache.Represents lru ∧
      List.Sublist lru.keys (uses limitMb history).dedup := by
  apply Run.invariant _ _ run
  · exact ⟨.empty, .empty, List.nil_sublist _⟩
  · intro history before call after _ known taken
    obtain ⟨lru, represents, ordered⟩ := known
    obtain rfl := Option.some.inj taken
    have stepped : before.Stepped lru call := represents.stepped
    exact ⟨call.request lru, stepped.represents, stepped.ordered ordered⟩

namespace Residency

variable {after : Residency} {next : LruCache ModelId limitMb}

private theorem Represents.evicted_eq (represents : cache.Represents lru)
    (later : after.Represents next) :
    cache.evicted after = lru.evicted next := by
  have order : cache.loadedOrder = lru.keys := represents.order
  rw [evicted, order]
  apply List.filter_congr
  intro id member
  exact decide_eq_decide.mpr (not_congr later.mem_iff)

private theorem Represents.incomingMb_eq (represents : cache.Represents lru) :
    call.incomingMb limitMb cache =
      if call.ready then lru.incoming call.model call.sizeMb else 0 := by
  cases ready : call.ready with
  | false => simp [Call.incomingMb, ready]
  | true =>
      simp only [Call.incomingMb, LruCache.incoming, ready, true_and,
        represents.mem_iff, ite_not, if_true]

/-- A call unloads the shortest prefix that makes room for its model. -/
theorem Represents.evicts (represents : cache.Represents lru) :
    ∃ count,
      cache.evicted (cache.generate limitMb call).1 =
        cache.loadedOrder.take count ∧
      IsLeast {count | cache.sizeFrom count +
        call.incomingMb limitMb cache ≤ limitMb} count := by
  have stepped : cache.Stepped lru call := represents.stepped
  have order : cache.loadedOrder = lru.keys := represents.order
  have sizes (count : ℕ) : cache.sizeFrom count =
      Lru.totalSize (lru.entries.drop count) := represents.sizes_drop count
  rw [represents.evicted_eq stepped.represents, order,
    represents.incomingMb_eq]
  simp only [sizes]
  rw [Call.request]
  split
  · exact LruCache.exists_evicted_eq_take
  · exact ⟨0, LruCache.evicted_nothing fun id member => member⟩

end Residency

/-- Every call of `generate`, after any calls before it, treats the models in
memory as a cache of the least recently used ones, and its loops end. -/
theorem generate_lru (run : (residencyOf limitMb).Run history cache) :
    LruCall limitMb history cache call (cache.generate limitMb call).1
        (cache.generate limitMb call).2 ∧
      ∀ preferred reservingMb (cache : Residency),
        (cache.trimLoadedToBudget limitMb preferred reservingMb).trimTurn
          limitMb preferred reservingMb = none := by
  obtain ⟨lru, represents, ordered⟩ := exists_represents run
  have stepped : cache.Stepped lru call := represents.stepped
  have next := stepped.represents
  have order : (cache.generate limitMb call).1.loadedOrder =
      (call.request lru).keys := next.order
  refine ⟨?_, fun _ _ _ => Residency.trimTurn_trimLoadedToBudget⟩
  constructor
  · exact ⟨next.nodup, fun id => (Tabled.mem_iff next).symm⟩
  · have listed := Lru.eq_filter_mem (stepped.ordered ordered)
      (List.nodup_dedup _)
    rw [order]
    refine listed.trans (List.filter_congr fun id _ => ?_)
    exact decide_eq_decide.mpr (Residency.Represents.mem_iff next).symm
  · rw [Residency.residentMb_none, next.total]
    exact (call.request lru).fits
  · exact represents.evicts
  · intro member
    have hit := represents.mem_iff.mp member
    rw [Residency.Represents.mem_iff next, Call.request]
    split
    · rw [LruCache.request_hit hit, LruCache.keys_touch hit]
      exact List.mem_append_right _ List.mem_cons_self
    · exact hit
  · exact stepped.item

def loadCall (model : ModelId) (sizeMb : ℕ) : Call where
  model
  ready := true
  sizeMb := some sizeMb
  load := .ok ()

/-- A third model takes the place of the first. -/
theorem generate_lru_third :
    ∃ history cache, (residencyOf 10).Run history cache ∧
      LruCall 10 history cache (loadCall "c" 3)
        (cache.generate 10 (loadCall "c" 3)).1
        (cache.generate 10 (loadCall "c" 3)).2 ∧
      cache.loadedOrder = ["a", "b"] ∧
      (cache.generate 10 (loadCall "c" 3)).1.loadedOrder = ["b", "c"] := by
  obtain ⟨history, cache, run, observed⟩ :=
    (residencyOf 10).exists_run_of_trace [loadCall "a" 4, loadCall "b" 5]
      (fun outcome => decide (outcome.2.loadedOrder = ["a", "b"] ∧
        (outcome.2.generate 10 (loadCall "c" 3)).1.loadedOrder = ["b", "c"]))
      (by decide +kernel)
  exact ⟨history, cache, run, (generate_lru run).1,
    of_decide_eq_true observed⟩

end Calls

end JwSwarm.LinuxNode
