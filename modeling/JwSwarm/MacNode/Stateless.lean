import Mathlib.Data.List.Induction
import JwSwarm.MacNode.Generate

namespace JwSwarm.MacNode

open Data Proto

/-! What a completion owes to the requests before it. -/

variable {Artifact : Type}

def requestLog : Serving Artifact (List Request) where
  fresh := []
  serve := fun _ log request => (log ++ [request], true)

namespace Llama

variable {library : Llama Artifact} {artifact : Artifact}

def inference (library : Llama Artifact) : Serving Artifact library.Cache where
  fresh := library.empty
  serve := fun artifact cache request =>
    let generated := library.generate artifact cache request
    (generated.1, generated.2.toBool)

def replay (library : Llama Artifact) (artifact : Artifact)
    (log : List Request) : library.Cache :=
  log.foldl (fun cache request => (library.generate artifact cache request).1)
    library.empty

theorem replay_concat {log : List Request} {request : Request} :
    library.replay artifact (log ++ [request]) =
      (library.generate artifact (library.replay artifact log) request).1 := by
  rw [replay, List.foldl_append]
  rfl

end Llama

structure Replays (library : Llama Artifact)
    (state : Residency Artifact library.Cache)
    (log : Residency Artifact (List Request)) : Prop where
  backend : state.backend = log.backend
  held : ∀ id, state.held id = (log.held id).map fun item =>
    (item.1, library.replay item.1 item.2)

section Simulation

variable {library : Llama Artifact}
variable {state next : Residency Artifact library.Cache}
variable {log logged : Residency Artifact (List Request)}
variable {call : Call Artifact} {calls : List (Call Artifact)}

theorem Replays.init {memoryLimitMb : ℕ} :
    Replays library (.init memoryLimitMb) (.init memoryLimitMb) where
  backend := rfl
  held := fun _ => rfl

theorem Replays.item (replays : Replays library state log) (id : ModelId)
    (artifact : Artifact) :
    state.item library.empty id artifact =
      ((log.item [] id artifact).1,
        library.replay (log.item [] id artifact).1
          (log.item [] id artifact).2) := by
  unfold Residency.item
  rw [replays.backend, replays.held]
  split
  · cases log.held id <;> rfl
  · rfl

theorem Replays.dispatch (replays : Replays library state log)
    {backend : LlamaBackend} {id : ModelId} {request : Request}
    {artifact : Artifact} :
    Replays library
      { backend, held := Function.update state.held id (some
          ((state.item library.empty id artifact).1,
            (library.generate (state.item library.empty id artifact).1
              (state.item library.empty id artifact).2 request).1)) }
      { backend, held := Function.update log.held id (some
          ((log.item [] id artifact).1,
            (log.item [] id artifact).2 ++ [request])) } := by
  refine ⟨rfl, fun other => ?_⟩
  simp only [Function.update_apply]
  split
  · rw [replays.item, Option.map_some, Llama.replay_concat]
  · exact replays.held other

theorem Replays.step (replays : Replays library state log)
    (taken : state.step library.inference call = some next) :
    ∃ logged, log.step requestLog call = some logged ∧
      Replays library next logged := by
  cases call with
  | updateMemoryLimitMb files value =>
      obtain rfl := Option.some.inj taken
      exact ⟨_, rfl, by simp only [replays.backend], replays.held⟩
  | register files id =>
      obtain rfl := Option.some.inj taken
      exact ⟨_, rfl, by simp only [replays.backend], replays.held⟩
  | dispatch id request files artifact loads =>
      simp only [Residency.step, Llama.inference, replays.backend] at taken
      split at taken
      · next admitted =>
          obtain rfl := Option.some.inj taken
          refine ⟨_, if_pos ⟨admitted.1, admitted.2.1, rfl⟩, ?_⟩
          exact replays.dispatch
      · cases taken

theorem Replays.run (replays : Replays library state log)
    (taken : state.run library.inference calls = some next) :
    ∃ logged, log.run requestLog calls = some logged ∧
      Replays library next logged := by
  induction calls generalizing state log with
  | nil =>
      obtain rfl := Option.some.inj taken
      exact ⟨log, rfl, replays⟩
  | cons call calls ih =>
      obtain ⟨middle, first, taken⟩ := Option.bind_eq_some_iff.mp taken
      obtain ⟨between, logged, replays⟩ := replays.step first
      obtain ⟨final, logs, replays⟩ := ih replays taken
      exact ⟨final, Option.bind_eq_some_iff.mpr ⟨between, logged, logs⟩,
        replays⟩

/-- Where no generation fails, the library follows every log. -/
theorem Replays.step_of_log (replays : Replays library state log)
    (succeeds : ∀ artifact cache request,
      (library.generate artifact cache request).2.toBool = true)
    (taken : log.step requestLog call = some logged) :
    ∃ next, state.step library.inference call = some next ∧
      Replays library next logged := by
  cases call with
  | updateMemoryLimitMb files value =>
      obtain rfl := Option.some.inj taken
      exact ⟨_, rfl, by simp only [replays.backend], replays.held⟩
  | register files id =>
      obtain rfl := Option.some.inj taken
      exact ⟨_, rfl, by simp only [replays.backend], replays.held⟩
  | dispatch id request files artifact loads =>
      simp only [Residency.step, requestLog] at taken
      split at taken
      · next admitted =>
          obtain rfl := Option.some.inj taken
          have admitted : id ∈ state.backend.readyModels ∧
              state.backend.canLoad files id loads = true := by
            rw [replays.backend]
            exact ⟨admitted.1, admitted.2.1⟩
          refine ⟨_, if_pos ⟨admitted.1, admitted.2, succeeds _ _ _⟩, ?_⟩
          simp only [Llama.inference, ← replays.backend]
          exact replays.dispatch
      · cases taken

theorem Replays.run_of_log (replays : Replays library state log)
    (succeeds : ∀ artifact cache request,
      (library.generate artifact cache request).2.toBool = true)
    (taken : log.run requestLog calls = some logged) :
    ∃ next, state.run library.inference calls = some next ∧
      Replays library next logged := by
  induction calls generalizing state log with
  | nil =>
      obtain rfl := Option.some.inj taken
      exact ⟨state, rfl, replays⟩
  | cons call calls ih =>
      obtain ⟨between, first, taken⟩ := Option.bind_eq_some_iff.mp taken
      obtain ⟨middle, step, replays⟩ := replays.step_of_log succeeds first
      obtain ⟨final, run, replays⟩ := ih replays taken
      exact ⟨final, Option.bind_eq_some_iff.mpr ⟨middle, step, run⟩, replays⟩

end Simulation

namespace Llama

/-- The prompt's batch of each request and the number of tokens decoded after
it, the last request first. -/
abbrev Marks := List (Batch × ℕ)

def remember (marks : Marks) (batch : Batch) : Marks :=
  match batch, marks with
  | (_, _ + 1) :: _, (prompt, count) :: rest => (prompt, count + 1) :: rest
  | _, _ => (batch, 0) :: marks

/-- It ends a text where the cache is the given one, and nowhere else. -/
abbrev observer (Artifact : Type) (goal : Marks) : Llama Artifact where
  Cache := Marks
  empty := []
  Logit := Bool
  exceeds := fun logit other => logit && !other
  tokenize := fun _ prompt => 0 :: prompt.toList.map Char.toNat
  vocabSize := fun _ => 2
  eos := fun _ => 1
  piece := fun _ _ => some "a"
  decode := fun _ cache batch => (remember cache batch, true)
  logits := fun _ cache _ => some fun token => token == 1 && cache == goal

variable {goal rest : Marks} {artifact : Artifact} {prompt : Batch}

theorem nextToken_observer {cache : Marks} :
    (observer Artifact goal).nextToken artifact
      (fun token => token == 1 && cache == goal) =
        if cache = goal then 1 else 0 := by
  by_cases here : cache = goal
  · simp [nextToken, here]
  · simp [nextToken, here]

theorem generateLoop_turn {turns nCur : ℕ} {cache : Marks} {batch : Batch}
    {generated : List String} :
    (observer Artifact goal).generateLoop artifact (turns + 1) cache batch nCur
      generated =
      if cache = goal then (cache, .ok generated)
      else (observer Artifact goal).generateLoop artifact turns
        (remember cache [(0, nCur)]) [(0, nCur)] (nCur + 1)
        (generated ++ ["a"]) := by
  by_cases here : cache = goal
  · simp only [generateLoop, nextToken_observer, if_pos here, if_true]
  · simp only [generateLoop, nextToken_observer, if_neg here, zero_ne_one,
      if_false, if_true, append]
    rfl

private theorem remember_later {count nCur : ℕ} {token : Token}
    (later : 0 < nCur) : remember ((prompt, count) :: rest) [(token, nCur)] =
      (prompt, count + 1) :: rest := by
  cases nCur with
  | zero => omega
  | succ position => rfl

private theorem generateLoop_observer {turns count nCur : ℕ} {batch : Batch}
    {generated : List String} (later : 0 < nCur) :
    ∃ more pieces, (observer Artifact goal).generateLoop artifact turns
        ((prompt, count) :: rest) batch nCur generated =
        ((prompt, count + more) :: rest, .ok (generated ++ pieces)) ∧
      (goal.length ≠ rest.length + 1 → more = turns) ∧
      ((prompt, count) :: rest = goal → pieces = []) ∧
      ((prompt, count) :: rest ≠ goal → 0 < turns → pieces ≠ []) := by
  induction turns generalizing count nCur batch generated with
  | zero =>
      refine ⟨0, [], ?_, fun _ => rfl, fun _ => rfl, fun _ less => ?_⟩
      · rw [List.append_nil]
        rfl
      · omega
  | succ turns ih =>
      by_cases here : (prompt, count) :: rest = goal
      · refine ⟨0, [], ?_, fun other => ?_, fun _ => rfl,
          fun other => absurd here other⟩
        · rw [generateLoop_turn, if_pos here, List.append_nil]
          rfl
        · exact absurd (here ▸ rfl) other
      · obtain ⟨more, pieces, looped, all, -, -⟩ :=
          @ih (count + 1) (nCur + 1) [(0, nCur)] (generated ++ ["a"])
            (Nat.succ_pos nCur)
        refine ⟨more + 1, "a" :: pieces, ?_, fun other => ?_,
          fun same => absurd same here, fun _ _ => List.cons_ne_nil _ _⟩
        · rw [generateLoop_turn, if_neg here, remember_later later, looped,
            List.append_assoc, Nat.add_assoc, Nat.add_comm 1]
          rfl
        · rw [all other]

def promptBatch (prompt : String) : Batch :=
  (0 :: prompt.toList.map Char.toNat).zipIdx

theorem generate_observer {cache : Marks} {request : Request} :
    ∃ more pieces usage, (observer Artifact goal).generate artifact cache
        request = ((promptBatch request.prompt, more) :: cache,
          .ok (pieces, usage)) ∧
      (goal.length ≠ cache.length + 1 → more = request.maxTokens) ∧
      ((promptBatch request.prompt, 0) :: cache = goal → pieces = []) ∧
      ((promptBatch request.prompt, 0) :: cache ≠ goal → pieces ≠ []) := by
  obtain ⟨more, pieces, looped, all, ends, goesOn⟩ :=
    @generateLoop_observer Artifact goal cache artifact
      (promptBatch request.prompt) request.maxTokens 0
      (0 :: request.prompt.toList.map Char.toNat).length
      (promptBatch request.prompt) [] (Nat.succ_pos _)
  rw [Nat.zero_add] at looped
  refine ⟨more, pieces, usage (0 :: request.prompt.toList.map
    Char.toNat).length pieces.length, ?_, all, ends,
    fun other => goesOn other request.positive⟩
  have first : remember cache (promptBatch request.prompt) =
      (promptBatch request.prompt, 0) :: cache := rfl
  have tokens : 0 :: request.prompt.toList.map Char.toNat ≠ [] :=
    List.cons_ne_nil _ _
  simp only [generate, if_neg tokens, if_true]
  rw [← promptBatch, first, looped]
  rfl

def mark (request : Request) : Batch × ℕ :=
  (promptBatch request.prompt, request.maxTokens)

private theorem mark_injective : Function.Injective mark := by
  intro request other same
  obtain ⟨batches, turns⟩ := Prod.mk.inj same
  have tokens := congrArg (List.map Prod.fst) batches
  simp only [promptBatch, List.zipIdx_map_fst] at tokens
  have chars := (List.cons.inj tokens).2
  have codes : Function.Injective Char.toNat := fun _ _ => Char.toNat_inj.mp
  have prompts : request.prompt = other.prompt :=
    String.toList_injective (List.map_injective_iff.mpr codes chars)
  cases request
  cases other
  simp only [Request.mk.injEq]
  exact ⟨prompts, turns⟩

theorem length_replay_observer {log : List Request} :
    ((observer Artifact goal).replay artifact log).length = log.length := by
  induction log using List.reverseRecOn with
  | nil => rfl
  | append_singleton log request ih =>
      obtain ⟨more, pieces, usage, generated, -⟩ :=
        @generate_observer Artifact goal artifact
          ((observer Artifact goal).replay artifact log) request
      rw [replay_concat, generated, List.length_append, List.length_cons, ih]
      rfl

theorem replay_observer {log : List Request}
    (short : log.length < goal.length) :
    (observer Artifact goal).replay artifact log = (log.map mark).reverse := by
  induction log using List.reverseRecOn with
  | nil => rfl
  | append_singleton log request ih =>
      rw [List.length_append, List.length_singleton] at short
      obtain ⟨more, pieces, usage, generated, all, -⟩ :=
        @generate_observer Artifact goal artifact
          ((observer Artifact goal).replay artifact log) request
      rw [length_replay_observer] at all
      rw [replay_concat, generated, all (by omega), ih (by omega),
        List.map_append, List.reverse_append]
      rfl

/-- The library that ends the text of the request after one log goes on after
every other log. -/
theorem exists_observer {first second : List Request}
    (different : first ≠ second) (artifact : Artifact) (request : Request) :
    ∃ library : Llama Artifact,
      (∀ artifact cache request,
        (library.generate artifact cache request).2.toBool = true) ∧
      (library.generate artifact (library.replay artifact first) request).2 ≠
        (library.generate artifact (library.replay artifact second)
          request).2 := by
  let goal : Marks :=
    (promptBatch request.prompt, 0) :: (first.map mark).reverse
  have size : goal.length = first.length + 1 := by
    simp [goal]
  refine ⟨observer Artifact goal, fun artifact cache request => ?_, ?_⟩
  · obtain ⟨more, pieces, usage, generated, -⟩ :=
      @generate_observer Artifact goal artifact cache request
    rw [generated]
    rfl
  · have reached : (observer Artifact goal).replay artifact first =
        (first.map mark).reverse := replay_observer (by omega)
    have missed : (observer Artifact goal).replay artifact second ≠
        (first.map mark).reverse := by
      intro same
      have sizes := congrArg List.length same
      rw [length_replay_observer, List.length_reverse, List.length_map]
        at sizes
      rw [replay_observer (by omega)] at same
      exact different (List.map_injective_iff.mpr mark_injective
        (List.reverse_injective same)).symm
    obtain ⟨_, pieces, usage, generated, -, ends, -⟩ :=
      @generate_observer Artifact goal artifact
        ((observer Artifact goal).replay artifact first) request
    obtain ⟨_, others, usage', generated', -, -, goesOn⟩ :=
      @generate_observer Artifact goal artifact
        ((observer Artifact goal).replay artifact second) request
    rw [generated, generated']
    intro same
    have texts : pieces = others :=
      congrArg Prod.fst (Except.ok.inj same)
    refine goesOn (fun whole => missed (List.cons.inj whole).2) ?_
    rw [← texts]
    exact ends (by rw [reached])

end Llama

/-- What the request gives once its model is loaded. -/
def Residency.outcome {library : Llama Artifact}
    (state : Residency Artifact library.Cache) (id : ModelId)
    (artifact : Artifact) (request : Request) :
    Except BackendError (List String × Usage) :=
  let item := state.item library.empty id artifact
  (library.generate item.1 item.2 request).2

/-- Whatever the inference library does, the request gives the same after both
histories. -/
def Stateless (firstMb secondMb : ℕ) (first second : List (Call Artifact))
    (id : ModelId) (artifact : Artifact) (request : Request) : Prop :=
  ∀ (library : Llama Artifact)
    (one two : Residency Artifact library.Cache),
    Residency.run library.inference (.init firstMb) first = some one →
    Residency.run library.inference (.init secondMb) second = some two →
    one.outcome id artifact request = two.outcome id artifact request

/-- The model that a request finds after the history, and the requests that its
context has served. -/
def servedBy (memoryLimitMb : ℕ) (calls : List (Call Artifact))
    (id : ModelId) (artifact : Artifact) : Option (Artifact × List Request) :=
  (Residency.run requestLog (.init memoryLimitMb) calls).map fun state =>
    state.item [] id artifact

theorem outcome_eq {library : Llama Artifact} {memoryLimitMb : ℕ}
    {calls : List (Call Artifact)} {id : ModelId} {artifact : Artifact}
    {request : Request} {state : Residency Artifact library.Cache}
    {found : Artifact × List Request}
    (run : Residency.run library.inference (.init memoryLimitMb) calls =
      some state)
    (served : servedBy memoryLimitMb calls id artifact = some found) :
    state.outcome id artifact request =
      (library.generate found.1 (library.replay found.1 found.2)
        request).2 := by
  obtain ⟨log, logged, replays⟩ := Replays.init.run run
  obtain ⟨other, same, rfl⟩ := Option.map_eq_some_iff.mp served
  obtain rfl := Option.some.inj (logged.symm.trans same)
  rw [Residency.outcome, replays.item]

/-- A request gives the same after two histories exactly when its model's
context has served the same requests in both. -/
theorem stateless_iff {firstMb secondMb : ℕ}
    {first second : List (Call Artifact)}
    {id : ModelId} {artifact : Artifact} {one two : Artifact × List Request}
    (request : Request)
    (firstServed : servedBy firstMb first id artifact = some one)
    (secondServed : servedBy secondMb second id artifact = some two)
    (sameArtifact : one.1 = two.1) :
    Stateless firstMb secondMb first second id artifact request ↔
      one.2 = two.2 := by
  constructor
  · intro stateless
    by_contra different
    obtain ⟨library, succeeds, distinct⟩ :=
      Llama.exists_observer different one.1 request
    obtain ⟨firstLog, firstLogged, -⟩ :=
      Option.map_eq_some_iff.mp firstServed
    obtain ⟨secondLog, secondLogged, -⟩ :=
      Option.map_eq_some_iff.mp secondServed
    obtain ⟨state, firstRun, -⟩ :=
      Replays.init.run_of_log succeeds firstLogged
    obtain ⟨other, secondRun, -⟩ :=
      Replays.init.run_of_log succeeds secondLogged
    have same := stateless library state other firstRun secondRun
    rw [outcome_eq firstRun firstServed, outcome_eq secondRun secondServed,
      ← sameArtifact] at same
    exact distinct same
  · intro sameLog library state other firstRun secondRun
    rw [outcome_eq firstRun firstServed, outcome_eq secondRun secondServed,
      sameArtifact, sameLog]

def roomyFiles : Files := fun _ => some 1000

def greeting : Request where
  prompt := "hello"
  maxTokens := 1
  positive := le_rfl
  bounded := by decide

def prompted (id : ModelId) : Call Unit :=
  .dispatch id greeting roomyFiles () true

def registered : List (Call Unit) :=
  [.register roomyFiles "m", .register roomyFiles "n"]

/-- The second model takes the place of the first one. -/
theorem stateless_iff_evicted :
    Stateless 1000 1000 registered
      (registered ++ [prompted "m", prompted "n"]) "m" () greeting :=
  (stateless_iff greeting
    (rfl : servedBy 1000 registered "m" () = some ((), []))
    (rfl : servedBy 1000 (registered ++ [prompted "m", prompted "n"]) "m" () =
      some ((), [])) rfl).mpr rfl

/-- A library that decodes only what continues its cache. -/
def strictLlama : Llama Unit where
  Cache := ℕ
  empty := 0
  Logit := ℕ
  exceeds := fun logit other => decide (other < logit)
  tokenize := fun _ prompt => prompt.toList.map Char.toNat
  vocabSize := fun _ => 256
  eos := fun _ => 2
  piece := fun _ _ => some "hi"
  decode := fun _ next batch =>
    if batch.head?.map Prod.snd = some next then (next + batch.length, true)
    else (next, false)
  logits := fun _ _ _ => some fun _ => 0

/-- The context of the first request is still there for the second one. -/
theorem resident_model_fails :
    (Residency.run strictLlama.inference (.init 1000) registered).map
        (fun state => (state.outcome "m" () greeting).toBool) = some true ∧
      (Residency.run strictLlama.inference (.init 1000)
        (registered ++ [prompted "m"])).map
          (fun state => (state.outcome "m" () greeting).toBool) = some false ∧
      ¬ Stateless 1000 1000 registered (registered ++ [prompted "m"]) "m" ()
        greeting := by
  have fresh : (Residency.run strictLlama.inference (.init 1000)
      registered).map (fun state =>
        (state.outcome "m" () greeting).toBool) = some true := by
    decide +kernel
  have resident : (Residency.run strictLlama.inference (.init 1000)
      (registered ++ [prompted "m"])).map (fun state =>
        (state.outcome "m" () greeting).toBool) = some false := by
    decide +kernel
  refine ⟨fresh, resident, fun stateless => ?_⟩
  obtain ⟨one, first, succeeds⟩ := Option.map_eq_some_iff.mp fresh
  obtain ⟨two, second, fails⟩ := Option.map_eq_some_iff.mp resident
  have same := stateless strictLlama one two first second
  rw [same, fails] at succeeds
  cases succeeds

end JwSwarm.MacNode
