import Mathlib.Algebra.GroupWithZero.Nat
import Mathlib.Algebra.Order.BigOperators.Group.List
import Mathlib.Algebra.Order.Group.Nat
import Mathlib.Data.List.AList
import Mathlib.Data.List.Dedup
import Mathlib.Order.Bounds.Basic

namespace JwSwarm.Data

universe u v

variable {Key : Type u}

namespace Lru

/-! Loops that take turns until one returns. -/

def untilNone {State : Type v} (turn : State → Option State) :
    ℕ → State → State
  | 0, state => state
  | turns + 1, state =>
      match turn state with
      | none => state
      | some next => untilNone turn turns next

/-- The loop, started in one state, ends in the other. -/
inductive LoopEnds {State : Type v} (turn : State → Option State) :
    State → State → Prop
  | done {state : State} (ended : turn state = none) :
      LoopEnds turn state state
  | again {state next final : State} (turned : turn state = some next)
      (rest : LoopEnds turn next final) : LoopEnds turn state final

section Loops

variable {State : Type v} {turn : State → Option State} {state : State}
variable {final : State} {holds : State → Prop} {turns : ℕ}

theorem untilNone_of_none (ended : turn state = none) :
    untilNone turn turns state = state := by
  cases turns with
  | zero => rfl
  | succ turns => rw [untilNone, ended]

theorem untilNone_invariant
    (kept : ∀ {state next}, holds state → turn state = some next → holds next)
    (start : holds state) : holds (untilNone turn turns state) := by
  induction turns generalizing state with
  | zero => exact start
  | succ turns ih =>
      unfold untilNone
      split
      · exact start
      · next next turned => exact ih (kept start turned)

theorem untilNone_map {change : State → State}
    (unseen : ∀ state, turn (change state) = (turn state).map change) :
    untilNone turn turns (change state) =
      change (untilNone turn turns state) := by
  induction turns generalizing state with
  | zero => rfl
  | succ turns ih =>
      rw [untilNone, untilNone, unseen state]
      cases turn state with
      | none => rfl
      | some next => exact ih

theorem LoopEnds.turn_eq_none (ends : LoopEnds turn state final) :
    turn final = none := by
  induction ends with
  | done ended => exact ended
  | again turned rest ih => exact ih

theorem loopEnds_untilNone (measure : State → ℕ)
    (kept : ∀ {state next}, holds state → turn state = some next →
      holds next ∧ measure next < measure state)
    (start : holds state) (enough : measure state ≤ turns) :
    LoopEnds turn state (untilNone turn turns state) := by
  induction turns generalizing state with
  | zero =>
      cases turned : turn state with
      | none => exact .done turned
      | some next =>
          have lower := (kept start turned).2
          omega
  | succ turns ih =>
      unfold untilNone
      split
      · next ended => exact .done ended
      · next next turned =>
          obtain ⟨start, lower⟩ := kept start turned
          exact .again turned (ih start (by omega))

theorem turn_untilNone (measure : State → ℕ)
    (lowered : ∀ {state next}, turn state = some next →
      measure next < measure state)
    (enough : measure state ≤ turns) :
    turn (untilNone turn turns state) = none := by
  have ends : LoopEnds turn state (untilNone turn turns state) :=
    @loopEnds_untilNone _ _ _ (fun _ => True) _ measure
      (fun _ turned => ⟨trivial, lowered turned⟩) trivial enough
  exact ends.turn_eq_none

end Loops

def totalSize (entries : List (Key × ℕ)) : ℕ :=
  (entries.map Prod.snd).sum

def keys (entries : List (Key × ℕ)) : List Key :=
  entries.map Prod.fst

/-- The oldest entries leave until the others fit beside `room`. -/
def evict (limit room : ℕ) : List (Key × ℕ) → List (Key × ℕ)
  | [] => []
  | entry :: rest =>
      if totalSize (entry :: rest) + room ≤ limit then entry :: rest
      else evict limit room rest

def touch [DecidableEq Key] (key : Key) (entries : List (Key × ℕ)) :
    List (Key × ℕ) :=
  entries.filter (fun entry => entry.1 ≠ key) ++
    entries.filter fun entry => entry.1 = key

variable {limit room size : ℕ} {key : Key} {entries : List (Key × ℕ)}
variable {uses : List Key}

theorem totalSize_append (left right : List (Key × ℕ)) :
    totalSize (left ++ right) = totalSize left + totalSize right := by
  simp [totalSize]

private theorem evict_of_fits (fits : totalSize entries + room ≤ limit) :
    evict limit room entries = entries := by
  cases entries with
  | nil => rfl
  | cons entry rest => exact if_pos fits

theorem totalSize_evict (small : room ≤ limit) :
    totalSize (evict limit room entries) + room ≤ limit := by
  induction entries with
  | nil => simpa [evict, totalSize] using small
  | cons entry rest ih =>
      unfold evict
      split
      · next fits => exact fits
      · exact ih

private theorem exists_evict_eq_drop (small : room ≤ limit) :
    ∃ count, evict limit room entries = entries.drop count ∧
      IsLeast {count | totalSize (entries.drop count) + room ≤ limit}
        count := by
  induction entries with
  | nil =>
      refine ⟨0, rfl, ?_, fun count _ => Nat.zero_le count⟩
      simpa [totalSize] using small
  | cons entry rest ih =>
      unfold evict
      split
      · next fits => exact ⟨0, rfl, fits, fun count _ => Nat.zero_le count⟩
      · next tight =>
          obtain ⟨count, evicted, fits, least⟩ := ih
          refine ⟨count + 1, evicted, fits, ?_⟩
          intro other fits
          cases other with
          | zero => exact absurd fits tight
          | succ other => exact Nat.succ_le_succ (least fits)

theorem evict_untilNone {State : Type v} {turn : State → Option State}
    {state : State} {turns : ℕ} (Holds : State → List (Key × ℕ) → Prop)
    (ended : ∀ {state entries}, Holds state entries →
      entries = [] ∨ totalSize entries + room ≤ limit → turn state = none)
    (turned : ∀ {state entry rest}, Holds state (entry :: rest) →
      limit < totalSize (entry :: rest) + room →
      ∃ next, turn state = some next ∧ Holds next rest)
    (holds : Holds state entries) (enough : entries.length ≤ turns) :
    Holds (untilNone turn turns state) (evict limit room entries) := by
  induction entries generalizing state turns with
  | nil =>
      rw [untilNone_of_none (ended holds (.inl rfl))]
      exact holds
  | cons entry rest ih =>
      by_cases fits : totalSize (entry :: rest) + room ≤ limit
      · rw [evict_of_fits fits, untilNone_of_none (ended holds (.inr fits))]
        exact holds
      · obtain ⟨turns, rfl⟩ : ∃ more, turns = more + 1 :=
          Nat.exists_eq_add_one.mpr
            (Nat.lt_of_lt_of_le (Nat.succ_pos _) enough)
        obtain ⟨next, taken, holds⟩ := turned holds (Nat.lt_of_not_le fits)
        rw [evict, if_neg fits, untilNone, taken]
        exact ih holds (Nat.le_of_succ_le_succ enough)

theorem evict_sublist : List.Sublist (evict limit room entries) entries := by
  induction entries with
  | nil => exact .slnil
  | cons entry rest ih =>
      unfold evict
      split
      · exact .refl _
      · exact ih.cons _

variable [DecidableEq Key]

theorem touch_perm : List.Perm (touch key entries) entries := by
  have whole := List.filter_append_perm (fun entry => entry.1 ≠ key) entries
  simpa [touch] using whole

theorem keys_touch (member : key ∈ keys entries)
    (nodup : (keys entries).Nodup) :
    keys (touch key entries) =
      (keys entries).filter (fun other => other ≠ key) ++ [key] := by
  have once : (keys entries).filter (fun other => other = key) = [key] := by
    rw [List.filter_eq, List.count_eq_one_of_mem nodup member]
    rfl
  rw [← once, touch]
  simp only [keys, List.map_append, List.filter_map]
  rfl

theorem filter_ne_of_notMem {keys : List Key} (absent : key ∉ keys) :
    keys.filter (fun other => other ≠ key) = keys := by
  rw [List.filter_eq_self]
  intro other member
  simpa using fun same : other = key => absent (same ▸ member)

private theorem dedup_concat : (uses ++ [key]).dedup =
    uses.dedup.filter (fun other => other ≠ key) ++ [key] := by
  induction uses with
  | nil => rfl
  | cons first uses ih =>
      by_cases same : first = key
      · subst same
        rw [List.cons_append, List.dedup_cons_of_mem (by simp), ih,
          List.dedup_cons]
        split
        · rfl
        · simp
      · rw [List.cons_append, List.dedup_cons, List.dedup_cons, ih]
        by_cases member : first ∈ uses
        · simp [member]
        · simp [member, same]

theorem eq_filter_mem {part whole : List Key} (inside : part.Sublist whole)
    (nodup : whole.Nodup) : part = whole.filter fun key => key ∈ part := by
  induction inside with
  | slnil => rfl
  | @cons part whole first inside ih =>
      obtain ⟨fresh, nodup⟩ := List.nodup_cons.mp nodup
      have absent : first ∉ part := fun member => fresh (inside.subset member)
      rw [List.filter_cons_of_neg (by simpa using absent)]
      exact ih nodup
  | @cons_cons part whole first inside ih =>
      obtain ⟨fresh, nodup⟩ := List.nodup_cons.mp nodup
      rw [List.filter_cons_of_pos (by simp)]
      congr 1
      refine (ih nodup).trans (List.filter_congr ?_)
      intro key member
      have different : key ≠ first := fun same => fresh (same ▸ member)
      simp [different]

private theorem filter_notMem_drop {keys : List Key} (nodup : keys.Nodup)
    (count : ℕ) :
    keys.filter (fun key => key ∉ keys.drop count) = keys.take count := by
  induction count generalizing keys with
  | zero => simp
  | succ count ih =>
      cases keys with
      | nil => rfl
      | cons first rest =>
          obtain ⟨fresh, nodup⟩ := List.nodup_cons.mp nodup
          have gone : first ∉ rest.drop count :=
            fun member => fresh (List.mem_of_mem_drop member)
          rw [List.drop_succ_cons, List.take_succ_cons,
            List.filter_cons_of_pos (by simpa using gone), ih nodup]

end Lru

structure LruCache (Key : Type u) (limit : ℕ) where
  entries : List (Key × ℕ)
  nodup : (Lru.keys entries).Nodup
  fits : Lru.totalSize entries ≤ limit

namespace LruCache

variable {limit : ℕ}

def empty : LruCache Key limit where
  entries := []
  nodup := .nil
  fits := Nat.zero_le _

def keys (cache : LruCache Key limit) : List Key :=
  Lru.keys cache.entries

def evict (cache : LruCache Key limit) (room : ℕ) : LruCache Key limit where
  entries := Lru.evict limit room cache.entries
  nodup := (Lru.evict_sublist.map Prod.fst).nodup cache.nodup
  fits :=
    ((Lru.evict_sublist.map Prod.snd).sum_le_sum fun size _ =>
      Nat.zero_le size).trans cache.fits

def insert (cache : LruCache Key limit) (key : Key) (size : ℕ)
    (fresh : key ∉ cache.keys)
    (fits : Lru.totalSize cache.entries + size ≤ limit) :
    LruCache Key limit where
  entries := cache.entries ++ [(key, size)]
  nodup := by
    rw [Lru.keys, List.map_append]
    exact cache.nodup.append (List.nodup_singleton _)
      (List.disjoint_singleton.mpr fresh)
  fits := by simpa [Lru.totalSize_append, Lru.totalSize] using fits

theorem keys_evict_subset {cache : LruCache Key limit} {room : ℕ} {key : Key}
    (member : key ∈ (cache.evict room).keys) : key ∈ cache.keys :=
  (Lru.evict_sublist.map Prod.fst).subset member

variable [DecidableEq Key]

def touch (cache : LruCache Key limit) (key : Key) : LruCache Key limit where
  entries := Lru.touch key cache.entries
  nodup := (Lru.touch_perm.map Prod.fst).nodup_iff.mpr cache.nodup
  fits := (Lru.touch_perm.map Prod.snd).sum_eq.trans_le cache.fits

/-- A request for `key`, of the given size if it can be loaded at all. What is
evicted for it leaves before the load, which may fail. -/
def request (cache : LruCache Key limit) (key : Key) (size : Option ℕ)
    (loads : Bool) : LruCache Key limit :=
  if hit : key ∈ cache.keys then cache.touch key
  else
    match size with
    | none => cache
    | some size =>
        if small : size ≤ limit then
          if loads then
            (cache.evict size).insert key size
              (fun member => hit (keys_evict_subset member))
              (Lru.totalSize_evict small)
          else cache.evict size
        else cache

variable {cache : LruCache Key limit} {key : Key} {size : ℕ} {loads : Bool}
variable {uses : List Key}

theorem request_hit {size : Option ℕ} (hit : key ∈ cache.keys) :
    cache.request key size loads = cache.touch key :=
  dif_pos hit

theorem request_none (absent : key ∉ cache.keys) :
    cache.request key none loads = cache :=
  dif_neg absent

theorem request_large (absent : key ∉ cache.keys) (large : limit < size) :
    cache.request key (some size) loads = cache := by
  rw [request, dif_neg absent]
  exact dif_neg (Nat.not_le.mpr large)

theorem request_failed (absent : key ∉ cache.keys) (small : size ≤ limit) :
    cache.request key (some size) false = cache.evict size := by
  rw [request, dif_neg absent]
  exact dif_pos small

theorem request_loaded (absent : key ∉ cache.keys) (small : size ≤ limit) :
    cache.request key (some size) true =
      (cache.evict size).insert key size
        (fun member => absent (keys_evict_subset member))
        (Lru.totalSize_evict small) := by
  rw [request, dif_neg absent]
  exact dif_pos small

/-! The keys stand in the order of their latest use. A request uses its key if
it leaves it in the cache. -/

def usedBy (cache : LruCache Key limit) (key : Key) (size : Option ℕ)
    (loads : Bool) : Option Key :=
  if key ∈ (cache.request key size loads).keys then some key else none

theorem keys_touch (member : key ∈ cache.keys) : (cache.touch key).keys =
    cache.keys.filter (fun other => other ≠ key) ++ [key] :=
  Lru.keys_touch member cache.nodup

theorem usedBy_of_mem {size : Option ℕ}
    (member : key ∈ (cache.request key size loads).keys) :
    cache.usedBy key size loads = some key :=
  if_pos member

theorem usedBy_of_notMem {size : Option ℕ}
    (absent : key ∉ (cache.request key size loads).keys) :
    cache.usedBy key size loads = none :=
  if_neg absent

theorem latest_sublist {part : List Key}
    (inside : List.Sublist part uses.dedup) :
    List.Sublist (part.filter (fun other => other ≠ key) ++ [key])
      (uses ++ [key]).dedup := by
  rw [Lru.dedup_concat]
  exact (inside.filter _).append (.refl _)

theorem keys_request_sublist {size : Option ℕ}
    (ordered : List.Sublist cache.keys uses.dedup) :
    List.Sublist (cache.request key size loads).keys
      (uses ++ (cache.usedBy key size loads).toList).dedup := by
  by_cases hit : key ∈ cache.keys
  · have member : key ∈ (cache.request key size loads).keys := by
      rw [request_hit hit, keys_touch hit]
      exact List.mem_append_right _ List.mem_cons_self
    rw [usedBy_of_mem member, request_hit hit, keys_touch hit]
    exact latest_sublist ordered
  · have kept (same : cache.request key size loads = cache) :
        List.Sublist (cache.request key size loads).keys
          (uses ++ (cache.usedBy key size loads).toList).dedup := by
      rw [usedBy_of_notMem (by rwa [same]), same]
      simpa using ordered
    cases size with
    | none => exact kept (request_none hit)
    | some size =>
        have gone : key ∉ (cache.evict size).keys :=
          fun member => hit (keys_evict_subset member)
        have evicted : List.Sublist (cache.evict size).keys uses.dedup :=
          (Lru.evict_sublist.map Prod.fst).trans ordered
        rcases Nat.lt_or_ge limit size with large | small
        · exact kept (request_large hit large)
        · cases loads with
          | false =>
              rw [request_failed hit small,
                usedBy_of_notMem (request_failed hit small ▸ gone)]
              simpa using evicted
          | true =>
              have keys : (cache.request key (some size) true).keys =
                  (cache.evict size).keys ++ [key] := by
                rw [request_loaded hit small]
                exact List.map_append
              rw [usedBy_of_mem (by simp [keys]), keys,
                ← Lru.filter_ne_of_notMem gone]
              exact latest_sublist evicted

def incoming (cache : LruCache Key limit) (key : Key) (size : Option ℕ) : ℕ :=
  if key ∈ cache.keys then 0 else (size.filter (· ≤ limit)).getD 0

/-- The keys that `next` lacks, oldest first. -/
def evicted (cache next : LruCache Key limit) : List Key :=
  cache.keys.filter fun key => key ∉ next.keys

/-- The least number of entries that leave room when the oldest are taken. -/
def LeastEvicted (cache : LruCache Key limit) (room count : ℕ) : Prop :=
  IsLeast {count | Lru.totalSize (cache.entries.drop count) + room ≤ limit}
    count

theorem evicted_nothing {next : LruCache Key limit}
    (kept : ∀ key ∈ cache.keys, key ∈ next.keys) :
    cache.evicted next = cache.keys.take 0 ∧ cache.LeastEvicted 0 0 := by
  constructor
  · rw [evicted, List.take_zero, List.filter_eq_nil_iff]
    intro key member
    simpa using kept key member
  · exact ⟨cache.fits, fun count _ => Nat.zero_le count⟩

private theorem evicted_room {next : LruCache Key limit} (small : size ≤ limit)
    (kept : ∀ other ∈ cache.keys,
      other ∈ next.keys ↔ other ∈ (cache.evict size).keys) :
    ∃ count, cache.evicted next = cache.keys.take count ∧
      cache.LeastEvicted size count := by
  have evicts : ∃ count,
      Lru.evict limit size cache.entries = cache.entries.drop count ∧
        cache.LeastEvicted size count := Lru.exists_evict_eq_drop small
  obtain ⟨count, entries, least⟩ := evicts
  refine ⟨count, ?_, least⟩
  have keys : (cache.evict size).keys = cache.keys.drop count := by
    show Lru.keys (Lru.evict limit size cache.entries) = _
    rw [entries]
    exact List.map_drop
  refine Eq.trans ?_ (Lru.filter_notMem_drop cache.nodup count)
  apply List.filter_congr
  intro other member
  have same : other ∈ next.keys ↔ other ∈ cache.keys.drop count := by
    rw [kept other member, keys]
  exact decide_eq_decide.mpr (not_congr same)

theorem exists_evicted_eq_take {size : Option ℕ} :
    ∃ count,
      cache.evicted (cache.request key size loads) = cache.keys.take count ∧
      cache.LeastEvicted (cache.incoming key size) count := by
  by_cases hit : key ∈ cache.keys
  · rw [request_hit hit, incoming, if_pos hit]
    refine ⟨0, evicted_nothing fun other member => ?_⟩
    exact (Lru.touch_perm.map Prod.fst).mem_iff.mpr member
  · rw [incoming, if_neg hit]
    cases size with
    | none =>
        rw [request_none hit]
        exact ⟨0, evicted_nothing fun other member => member⟩
    | some size =>
        rcases Nat.lt_or_ge limit size with large | small
        · rw [request_large hit large,
            Option.filter_some_neg (by simpa using large)]
          exact ⟨0, evicted_nothing fun other member => member⟩
        · rw [Option.filter_some_pos (by simpa using small)]
          apply evicted_room small
          intro other member
          cases loads with
          | false => rw [request_failed hit small]
          | true =>
              have different : other ≠ key := fun same => hit (same ▸ member)
              rw [request_loaded hit small]
              simp [keys, insert, Lru.keys, different]

end LruCache

/-- The table and the list hold these entries in this order. -/
structure Tabled (loaded : AList fun _ : Key => ℕ) (order : List Key)
    (entries : List (Key × ℕ)) : Prop where
  order : order = Lru.keys entries
  loaded : loaded.entries.Perm
    (entries.map fun entry => (⟨entry.1, entry.2⟩ : Σ _ : Key, ℕ))

namespace Tabled

variable {loaded : AList fun _ : Key => ℕ} {order : List Key}
variable {entries rest : List (Key × ℕ)} {key : Key} {size : ℕ}

theorem empty : Tabled (∅ : AList fun _ : Key => ℕ) [] [] where
  order := rfl
  loaded := .nil

theorem keys_perm (tabled : Tabled loaded order entries) :
    loaded.keys.Perm order := by
  have whole := tabled.loaded.map Sigma.fst
  rw [List.map_map] at whole
  rw [tabled.order]
  exact whole

theorem nodup (tabled : Tabled loaded order entries) : order.Nodup :=
  tabled.keys_perm.nodup_iff.mp loaded.keys_nodup

theorem mem_iff (tabled : Tabled loaded order entries) :
    key ∈ loaded ↔ key ∈ order :=
  AList.mem_keys.trans tabled.keys_perm.mem_iff

theorem total (tabled : Tabled loaded order entries) :
    (loaded.entries.map Sigma.snd).sum = Lru.totalSize entries := by
  have whole := (tabled.loaded.map Sigma.snd).sum_eq
  rw [List.map_map] at whole
  exact whole

variable [DecidableEq Key]

private theorem lookup_eq_some (tabled : Tabled loaded order entries) :
    loaded.lookup key = some size ↔ (key, size) ∈ entries := by
  refine AList.mem_lookup_iff.trans (tabled.loaded.mem_iff.trans ?_)
  constructor
  · intro stored
    obtain ⟨entry, member, same⟩ := List.mem_map.mp stored
    cases same
    exact member
  · intro member
    exact List.mem_map.mpr ⟨(key, size), member, rfl⟩

theorem erase_order (tabled : Tabled loaded order entries) :
    order.erase key = order.filter fun other => other ≠ key := by
  rw [tabled.nodup.erase_eq_filter]
  apply List.filter_congr
  intro other member
  by_cases same : other = key
  · simp [same]
  · simp [same]

theorem sizes_drop (tabled : Tabled loaded order entries) (count : ℕ) :
    ((order.drop count).map fun key => (loaded.lookup key).getD 0).sum =
      Lru.totalSize (entries.drop count) := by
  rw [tabled.order, Lru.keys, ← List.map_drop, List.map_map, Lru.totalSize]
  congr 1
  apply List.map_congr_left
  intro entry member
  have stored : loaded.lookup entry.1 = some entry.2 :=
    tabled.lookup_eq_some.mpr (List.mem_of_mem_drop member)
  simp [stored]

theorem evicted (tabled : Tabled loaded order ((key, size) :: rest)) :
    Tabled (loaded.erase key) (order.filter fun other => other ≠ key)
      rest := by
  have fresh : key ∉ Lru.keys rest := by
    have nodup := tabled.nodup
    rw [tabled.order] at nodup
    exact (List.nodup_cons.mp nodup).1
  constructor
  · rw [tabled.order, Lru.keys, List.map_cons,
      List.filter_cons_of_neg (by simp)]
    exact Lru.filter_ne_of_notMem fresh
  · have erased := List.Perm.kerase (a := key)
      loaded.nodupKeys tabled.loaded
    rw [List.map_cons, List.kerase_cons_eq (by rfl)] at erased
    exact erased

theorem touched (tabled : Tabled loaded order entries) (member : key ∈ order) :
    Tabled loaded (order.filter (fun other => other ≠ key) ++ [key])
      (Lru.touch key entries) where
  order := by
    have nodup := tabled.nodup
    rw [tabled.order] at member nodup ⊢
    exact (Lru.keys_touch member nodup).symm
  loaded := tabled.loaded.trans (Lru.touch_perm.map _).symm

theorem inserted (tabled : Tabled loaded order entries)
    (fresh : key ∉ order) :
    Tabled (loaded.insert key size)
      (order.filter (fun other => other ≠ key) ++ [key])
      (entries ++ [(key, size)]) where
  order := by
    rw [Lru.filter_ne_of_notMem fresh, tabled.order, Lru.keys, Lru.keys,
      List.map_append]
    rfl
  loaded := by
    rw [AList.entries_insert_of_notMem fun member =>
      fresh (tabled.mem_iff.mp member), List.map_append]
    exact (tabled.loaded.cons _).trans (List.perm_append_singleton _ _).symm

end Tabled

end JwSwarm.Data
