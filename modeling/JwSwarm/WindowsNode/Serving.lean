import JwSwarm.Data.Interleaved
import JwSwarm.WindowsNode.Server

namespace JwSwarm.WindowsNode

open Data Proto Transition Machine

/-! The tasks as the server. -/

def TaskPhase.queued : TaskPhase → Bool
  | .waiting | .looking | .trimming _ | .loading _ => true
  | _ => false

/-- From `WaitAsync` to `Release`. -/
def TaskPhase.holds : TaskPhase → Bool
  | .waiting | .finished => false
  | _ => true

abbrev PromptTask.queued (task : PromptTask) : Bool := task.phase.queued

abbrev PromptTask.holds (task : PromptTask) : Bool := task.phase.holds

def Backend.waiting (state : Backend) : List PromptDispatch :=
  (state.tasks.filter PromptTask.queued).map PromptTask.prompt

def Backend.holders (state : Backend) : List PromptTask :=
  state.tasks.filter PromptTask.holds

/-- What the task at work has made of the server's cache and draft. While it
loads a model, the models that make room for it are already gone. -/
inductive Held (cache : BackendManager) :
    List PromptTask → BackendManager → Option Reply → Prop
  | idle : Held cache [] cache none
  | looking {prompt : PromptDispatch} {dir : String} :
      Held cache [{ prompt, dir, phase := .looking }] cache none
  | trimming {prompt : PromptDispatch} {dir : String} {sizeMb : ℕ}
      (missing : cache.loaded.lookup prompt.model = none) :
      Held cache [{ prompt, dir, phase := .trimming sizeMb }] cache none
  | loading {prompt : PromptDispatch} {dir : String} {sizeMb : ℕ}
      (missing : cache.loaded.lookup prompt.model = none) :
      Held cache [{ prompt, dir, phase := .loading sizeMb }]
        (cache.trimLoadedToBudget prompt.model sizeMb) none
  | tokenizing {prompt : PromptDispatch} {dir : String}
      (resident : prompt.model ∈ cache.loaded) :
      Held cache [{ prompt, dir, phase := .tokenizing }] cache
        (some { prompt })
  | inferring {prompt : PromptDispatch} {dir : String} {pieces : List Piece}
      {promptTokens : UInt32} (resident : prompt.model ∈ cache.loaded) :
      Held cache
        [{ prompt, dir,
           phase := .inferring promptTokens (.ofNat pieces.length) }]
        cache (some { prompt, pieces })
  | reporting {prompt : PromptDispatch} {dir : String} {pieces : List Piece}
      {promptTokens : UInt32} :
      Held cache
        [{ prompt, dir,
           phase := .reporting promptTokens (.ofNat pieces.length) }]
        cache (some { prompt, pieces, ending := some (.done promptTokens) })
  | caught {prompt : PromptDispatch} {dir : String} {pieces : List Piece}
      {message : String} :
      Held cache [{ prompt, dir, phase := .caught message }] cache
        (some { prompt, pieces, ending := some (.failed message) })
  | releasing {prompt : PromptDispatch} {dir : String} :
      Held cache [{ prompt, dir, phase := .releasing }] cache none

/-- What the backend counts is what the replies are about. -/
structure Counts (shared : Shared) (replies : List Reply) : Prop where
  usage : ∀ id, shared.usageOf id = counted replies id
  total : shared.totalCompletionTokens = countedTotal replies

/-- The backend is the server; the frames of the refused prompts may come at
any time. -/
structure Matches (state : Backend) (server : Server) : Prop where
  permits : state.shared.permits + state.holders.length = 1
  held : Held server.cache state.holders state.shared.manager server.draft
  waiting : state.waiting.Perm server.waiting
  sent : Interleaved server.frames (server.refused.map modelFileMissing)
    state.shared.sent
  counts : Counts state.shared server.concluded

variable {shared next : Shared} {task : PromptTask} {phase : TaskPhase}
variable {state after : Backend} {index limitMb : ℕ} {id : ModelId}
variable {serving : Server} {cache manager : BackendManager} {file : Artifact}
variable {holders earlier later : List PromptTask} {draft : Option Reply}

theorem Held.register (held : Held cache holders manager draft) :
    Held (cache.register id file) holders (manager.register id file) draft := by
  cases held with
  | idle => exact .idle
  | looking => exact .looking
  | trimming missing => exact .trimming missing
  | loading missing =>
      rw [← trimLoadedToBudget_register]
      exact .loading missing
  | tokenizing resident => exact .tokenizing resident
  | inferring resident => exact .inferring resident
  | reporting => exact .reporting
  | caught => exact .caught
  | releasing => exact .releasing

theorem Held.ready (held : Held cache holders manager draft) :
    manager.ready = cache.ready := by
  cases held with
  | loading missing => exact ready_trimLoadedToBudget
  | _ => rfl

private theorem Matches.others_idle (matched : Matches state serving)
    (whole : state.tasks = earlier ++ task :: later)
    (moved : TaskMove state.shared task task.phase next phase) :
    earlier.filter PromptTask.holds = [] ∧
      later.filter PromptTask.holds = [] := by
  have permits := matched.permits
  rw [Backend.holders, whole, List.filter_append, List.filter_cons,
    List.length_append] at permits
  have none_left : (earlier.filter PromptTask.holds).length = 0 ∧
      (later.filter PromptTask.holds).length = 0 := by
    by_cases holds : task.phase.holds = true
    · rw [if_pos holds, List.length_cons] at permits
      omega
    · rw [if_neg holds] at permits
      generalize at_work : task.phase = current at moved holds
      cases moved with
      | wait free => omega
      | _ => exact absurd rfl holds
  exact ⟨List.eq_nil_of_length_eq_zero none_left.1,
    List.eq_nil_of_length_eq_zero none_left.2⟩

private theorem exists_eraseIdx {prompt : PromptDispatch}
    {before rest waiting : List PromptDispatch}
    (same : (before ++ prompt :: rest).Perm waiting) :
    ∃ index, waiting[index]? = some prompt ∧
      (before ++ rest).Perm (waiting.eraseIdx index) := by
  have member : prompt ∈ waiting := same.mem_iff.mp (by simp)
  obtain ⟨index, inside, rfl⟩ := List.getElem_of_mem member
  refine ⟨index, List.getElem?_eq_getElem inside, ?_⟩
  apply List.Perm.cons_inv (a := waiting[index])
  exact (List.perm_middle.symm.trans same).trans
    (List.getElem_cons_eraseIdx_perm inside).symm

/-- The task is the only one at work, before its step and after it. -/
structure Focus (state after : Backend) (serving : Server) (task : PromptTask)
    (phase : TaskPhase) : Prop where
  permits : state.shared.permits +
    ([task].filter PromptTask.holds).length = 1
  held : Held serving.cache ([task].filter PromptTask.holds)
    state.shared.manager serving.draft
  holders : after.holders = [{ task with phase }].filter PromptTask.holds
  kept : phase.queued = task.queued → after.waiting.Perm serving.waiting
  taken : task.queued = true → phase.queued = false →
    ∃ index, serving.waiting[index]? = some task.prompt ∧
      after.waiting.Perm (serving.waiting.eraseIdx index)

theorem Matches.focus (matched : Matches state serving)
    (whole : state.tasks = earlier ++ task :: later)
    (changed : after.tasks = earlier ++ { task with phase } :: later)
    (moved : TaskMove state.shared task task.phase next phase) :
    Focus state after serving task phase := by
  obtain ⟨first, last⟩ := matched.others_idle whole moved
  have alone : state.holders = [task].filter PromptTask.holds := by
    rw [Backend.holders, whole, List.filter_append, List.filter_cons, first,
      last, List.filter_cons, List.filter_nil, List.nil_append]
  have waited := matched.waiting
  rw [Backend.waiting, whole, List.filter_append, List.filter_cons] at waited
  refine ⟨alone ▸ matched.permits, alone ▸ matched.held, ?_, ?_, ?_⟩
  · rw [Backend.holders, changed, List.filter_append, List.filter_cons, first,
      last, List.filter_cons, List.filter_nil, List.nil_append]
  · intro same
    have unchanged : { task with phase }.queued = task.queued := same
    rw [Backend.waiting, changed, List.filter_append, List.filter_cons,
      unchanged]
    cases queued : task.queued with
    | true => simpa [queued] using waited
    | false => simpa [queued] using waited
  · intro queued served
    have gone : { task with phase }.queued = false := served
    rw [if_pos queued, List.map_append, List.map_cons] at waited
    obtain ⟨index, found, erased⟩ := exists_eraseIdx waited
    refine ⟨index, found, ?_⟩
    rw [Backend.waiting, changed, List.filter_append, List.filter_cons, gone,
      if_neg Bool.false_ne_true, List.map_append]
    exact erased

variable {reply : Reply} {replies : List Reply} {prompt : PromptDispatch}
variable {pieces : List Piece} {message : String} {promptTokens : UInt32}

theorem Counts.failed (counts : Counts shared replies) :
    Counts shared
      (replies ++ [{ prompt, pieces, ending := some (.failed message) }]) where
  usage id := by
    rw [counts.usage, counted_concat]
    rfl
  total := by
    rw [counts.total, countedTotal_concat]
    rfl

theorem Counts.done (counts : Counts shared replies) :
    Counts (shared.count prompt.model promptTokens (.ofNat pieces.length))
      (replies ++
        [{ prompt, pieces, ending := some (.done promptTokens) }]) where
  usage id := by
    rw [usageOf_count, counts.usage, counted_concat]
    rfl
  total := by
    rw [countedTotal_concat, ← counts.total]
    rfl

theorem Focus.stay (focus : Focus state after serving task phase)
    (matched : Matches state serving)
    (permits : after.shared.permits +
      ([{ task with phase }].filter PromptTask.holds).length = 1)
    (held : Held serving.cache ([{ task with phase }].filter PromptTask.holds)
      after.shared.manager serving.draft)
    (same : phase.queued = task.queued)
    (sent : after.shared.sent = state.shared.sent)
    (counts : ∀ {replies}, Counts state.shared replies →
      Counts after.shared replies) :
    ∃ next, Advances serving next ∧ Matches after next := by
  refine ⟨serving, .stay, ?_, ?_, focus.kept same, ?_, counts matched.counts⟩
  · rw [focus.holders]
    exact permits
  · rw [focus.holders]
    exact held
  · rw [sent]
    exact matched.sent

theorem Counts.start {failure : Option String}
    (counts : Counts shared serving.replies) :
    Counts shared (serving.start index prompt file failure).concluded := by
  unfold Server.concluded Server.start
  generalize serving.cache.ensureLoaded prompt.model file failure.isNone =
    outcome
  cases outcome with
  | mk cache loaded =>
      cases loaded with
      | ok size => simpa [Server.loadEnding] using counts
      | error error => exact counts.failed

theorem Focus.start (focus : Focus state after serving task phase)
    (matched : Matches state serving) (idle : serving.draft = none)
    (file : Artifact) (failure : Option String)
    (queued : task.queued = true) (served : phase.queued = false)
    (holds : phase.holds = true)
    (held : ∀ ending,
      ending = Server.loadEnding failure (serving.cache.ensureLoaded
        task.prompt.model file failure.isNone).2 →
      Held (serving.cache.ensureLoaded task.prompt.model file
        failure.isNone).1 [{ task with phase }] after.shared.manager
        (some { prompt := task.prompt, ending }))
    (permits : after.shared.permits = 0)
    (sent : after.shared.sent = state.shared.sent)
    (counts : ∀ {replies}, Counts state.shared replies →
      Counts after.shared replies) :
    ∃ next, Advances serving next ∧ Matches after next := by
  obtain ⟨index, found, waiting⟩ := focus.taken queued served
  have alone : after.holders = [{ task with phase }] := by
    rw [focus.holders, List.filter_cons, if_pos holds, List.filter_nil]
  have written := matched.sent
  rw [Server.frames, idle] at written
  have counted : Counts after.shared serving.replies := by
    simpa [Server.concluded, idle] using counts matched.counts
  refine ⟨serving.start index task.prompt file failure,
    @Advances.step _ (.start index file failure) _ (by simp) ?_,
    ?_, ?_, waiting, ?_, ?_⟩
  · simp only [Server.step, idle, found]
  · rw [alone, permits]
    rfl
  · rw [alone]
    exact held _ rfl
  · rw [sent]
    exact written
  · exact counted.start

theorem Focus.piece (focus : Focus state after serving task phase)
    (matched : Matches state serving) (text : Piece)
    (drafted : serving.draft = some { prompt, pieces })
    (at_work : task.holds = true) (same : phase.queued = task.queued)
    (holds : phase.holds = true)
    (held : Held serving.cache [{ task with phase }] state.shared.manager
      (some { prompt, pieces := pieces ++ [text] }))
    (shared : after.shared = state.shared.send
      (tokenChunk prompt text.1 (.ofNat pieces.length))) :
    ∃ next, Advances serving next ∧ Matches after next := by
  have alone : after.holders = [{ task with phase }] := by
    rw [focus.holders, List.filter_cons, if_pos holds, List.filter_nil]
  have permits := focus.permits
  rw [List.filter_cons, if_pos at_work, List.filter_nil] at permits
  have longer :
      Server.frames { serving with
        draft := some { prompt, pieces := pieces ++ [text] } } =
      serving.frames ++
        [tokenChunk prompt text.1 (.ofNat pieces.length)] := by
    simp [Server.frames, drafted, chunks_concat]
  have counted := matched.counts
  rw [Server.concluded, drafted] at counted
  refine ⟨{ serving with draft := some { prompt, pieces := pieces ++ [text] } },
    @Advances.step _ (.piece text) _ (by simp) ?_, ?_, ?_, focus.kept same,
    ?_, ?_⟩
  · simp only [Server.step, drafted]
  · rw [alone, shared]
    exact permits
  · rw [alone, shared]
    exact held
  · rw [longer, shared]
    exact matched.sent.left _
  · rw [shared]
    exact ⟨counted.usage, counted.total⟩

theorem Focus.finish (focus : Focus state after serving task phase)
    (matched : Matches state serving) (ending : Ending)
    (drafted : serving.draft = some { prompt, pieces })
    (at_work : task.holds = true) (same : phase.queued = task.queued)
    (holds : phase.holds = true)
    (held : Held serving.cache [{ task with phase }] after.shared.manager
      (some { prompt, pieces, ending := some ending }))
    (permits : after.shared.permits = state.shared.permits)
    (sent : after.shared.sent = state.shared.sent)
    (counts : ∀ {replies}, Counts state.shared replies →
      Counts after.shared
        (replies ++ [{ prompt, pieces, ending := some ending }])) :
    ∃ next, Advances serving next ∧ Matches after next := by
  have alone : after.holders = [{ task with phase }] := by
    rw [focus.holders, List.filter_cons, if_pos holds, List.filter_nil]
  have taken := focus.permits
  rw [List.filter_cons, if_pos at_work, List.filter_nil] at taken
  have written := matched.sent
  rw [Server.frames, drafted] at written
  have counted : Counts state.shared serving.replies := by
    simpa [Server.concluded, drafted] using matched.counts
  refine ⟨{ serving with
      draft := some { prompt, pieces, ending := some ending } },
    @Advances.step _ (.finish ending) _ (by simp) ?_, ?_, ?_,
    focus.kept same, ?_, ?_⟩
  · simp only [Server.step, drafted]
  · rw [alone, permits]
    exact taken
  · rw [alone]
    exact held
  · rw [sent]
    exact written
  · simpa [Server.concluded] using counts counted

theorem Focus.report (focus : Focus state after serving task phase)
    (matched : Matches state serving) {frame : Message}
    (drafted : serving.draft = some reply) (last : reply.last = some frame)
    (at_work : task.holds = true) (same : phase.queued = task.queued)
    (holds : phase.holds = true)
    (held : Held serving.cache [{ task with phase }] state.shared.manager none)
    (shared : after.shared = state.shared.send frame) :
    ∃ next, Advances serving next ∧ Matches after next := by
  have alone : after.holders = [{ task with phase }] := by
    rw [focus.holders, List.filter_cons, if_pos holds, List.filter_nil]
  have permits := focus.permits
  rw [List.filter_cons, if_pos at_work, List.filter_nil] at permits
  have ended : reply.ending.isSome = true := by
    have some_last := congrArg Option.isSome last
    rwa [Reply.last, Option.isSome_map] at some_last
  have longer :
      Server.frames { serving with
        draft := none, replies := serving.replies ++ [reply] } =
      serving.frames ++ [frame] := by
    simp [Server.frames, drafted, Reply.frames, last]
  have counted : Counts state.shared (serving.replies ++ [reply]) := by
    simpa [Server.concluded, drafted, ended] using matched.counts
  refine ⟨{ serving with draft := none, replies := serving.replies ++ [reply] },
    @Advances.step _ .report _ (by simp) ?_, ?_, ?_, focus.kept same,
    ?_, ?_⟩
  · simp only [Server.step, drafted, ended, if_true]
  · rw [alone, shared]
    exact permits
  · rw [alone, shared]
    exact held
  · rw [longer, shared]
    exact matched.sent.left _
  · rw [shared, Server.concluded]
    exact (List.append_nil _).symm ▸ ⟨counted.usage, counted.total⟩

/-! What the task holds, phase by phase, and what its step makes of it. -/

section Phases

variable {dir : String} {sizeMb : ℕ}

private theorem held_looking
    (held : Held cache [⟨prompt, dir, .looking⟩] manager draft) :
    manager = cache ∧ draft = none := by
  cases held with
  | looking => exact ⟨rfl, rfl⟩

private theorem held_trimming
    (held : Held cache [⟨prompt, dir, .trimming sizeMb⟩] manager draft) :
    manager = cache ∧ draft = none ∧
      cache.loaded.lookup prompt.model = none := by
  cases held with
  | trimming missing => exact ⟨rfl, rfl, missing⟩

private theorem held_loading
    (held : Held cache [⟨prompt, dir, .loading sizeMb⟩] manager draft) :
    manager = cache.trimLoadedToBudget prompt.model sizeMb ∧ draft = none ∧
      cache.loaded.lookup prompt.model = none := by
  cases held with
  | loading missing => exact ⟨rfl, rfl, missing⟩

private theorem held_tokenizing
    (held : Held cache [⟨prompt, dir, .tokenizing⟩] manager draft) :
    manager = cache ∧ draft = some { prompt } ∧
      prompt.model ∈ cache.loaded := by
  cases held with
  | tokenizing resident => exact ⟨rfl, rfl, resident⟩

private theorem held_inferring {index : UInt32}
    (held : Held cache [⟨prompt, dir, .inferring promptTokens index⟩] manager
      draft) :
    ∃ pieces : List Piece, index = .ofNat pieces.length ∧ manager = cache ∧
      draft = some { prompt, pieces } ∧ prompt.model ∈ cache.loaded := by
  cases held with
  | @inferring _ _ pieces _ resident => exact ⟨pieces, rfl, rfl, rfl, resident⟩

private theorem held_reporting {completionTokens : UInt32}
    (held : Held cache [⟨prompt, dir, .reporting promptTokens completionTokens⟩]
      manager draft) :
    ∃ pieces : List Piece, completionTokens = .ofNat pieces.length ∧
      manager = cache ∧ draft =
        some { prompt, pieces, ending := some (.done promptTokens) } := by
  cases held with
  | @reporting _ _ pieces _ => exact ⟨pieces, rfl, rfl, rfl⟩

private theorem held_caught
    (held : Held cache [⟨prompt, dir, .caught message⟩] manager draft) :
    ∃ pieces : List Piece, manager = cache ∧ draft =
      some { prompt, pieces, ending := some (.failed message) } := by
  cases held with
  | @caught _ _ pieces _ => exact ⟨pieces, rfl, rfl⟩

private theorem held_releasing
    (held : Held cache [⟨prompt, dir, .releasing⟩] manager draft) :
    manager = cache ∧ draft = none := by
  cases held with
  | releasing => exact ⟨rfl, rfl⟩

private theorem held_idle (held : Held cache [] manager draft) :
    manager = cache ∧ draft = none := by
  cases held with
  | idle => exact ⟨rfl, rfl⟩

theorem Focus.waiting
    (focus : Focus state after serving ⟨prompt, dir, .waiting⟩ phase)
    (matched : Matches state serving) (shared : after.shared = next)
    (moved : TaskMove state.shared ⟨prompt, dir, .waiting⟩ .waiting next
      phase) :
    ∃ advanced, Advances serving advanced ∧ Matches after advanced := by
  have permits := focus.permits
  obtain ⟨managed, drafted⟩ := held_idle focus.held
  cases moved with
  | wait free =>
      refine focus.stay matched ?_ ?_ rfl (by rw [shared])
        (fun counts => shared ▸ ⟨counts.usage, counts.total⟩)
      · rw [shared]
        exact Nat.sub_add_cancel (Nat.pos_of_ne_zero free) |>.trans permits
      · rw [shared, drafted, managed]
        exact .looking

theorem Focus.looking
    (focus : Focus state after serving ⟨prompt, dir, .looking⟩ phase)
    (matched : Matches state serving) (shared : after.shared = next)
    (moved : TaskMove state.shared ⟨prompt, dir, .looking⟩ .looking next
      phase) :
    ∃ advanced, Advances serving advanced ∧ Matches after advanced := by
  have permits := focus.permits
  have taken : state.shared.permits = 0 := Nat.add_eq_right.mp permits
  obtain ⟨managed, drafted⟩ := held_looking focus.held
  cases moved with
  | @hit sizeMb found =>
      rw [managed] at found
      refine focus.start matched drafted none none rfl rfl rfl ?_
        (shared ▸ taken) (by rw [shared])
        (fun counts => shared ▸ ⟨counts.usage, counts.total⟩)
      rintro ending rfl
      rw [Option.isNone_none, ensureLoaded_resident found, shared, managed]
      exact .tokenizing (AList.lookup_isSome.mp (found ▸ rfl))
  | absent missing =>
      rw [managed] at missing
      refine focus.start matched drafted none
        (some ("no model artifact in " ++ dir)) rfl rfl rfl ?_
        (shared ▸ taken) (by rw [shared])
        (fun counts => shared ▸ ⟨counts.usage, counts.total⟩)
      rintro ending rfl
      rw [Option.isNone_some, ensureLoaded_absent missing, shared, managed]
      exact .caught
  | miss missing sizeMb =>
      rw [managed] at missing
      refine focus.stay matched (shared ▸ permits) ?_ rfl (by rw [shared])
        (fun counts => shared ▸ ⟨counts.usage, counts.total⟩)
      rw [shared, drafted, managed]
      exact .trimming missing

theorem Focus.trimming
    (focus : Focus state after serving ⟨prompt, dir, .trimming sizeMb⟩ phase)
    (matched : Matches state serving) (shared : after.shared = next)
    (moved : TaskMove state.shared ⟨prompt, dir, .trimming sizeMb⟩
      (.trimming sizeMb) next phase) :
    ∃ advanced, Advances serving advanced ∧ Matches after advanced := by
  obtain ⟨managed, drafted, missing⟩ := held_trimming focus.held
  cases moved with
  | trim =>
      refine focus.stay matched ?_ ?_ rfl (by rw [shared])
        (fun counts => shared ▸ ⟨counts.usage, counts.total⟩)
      · rw [shared]
        exact focus.permits
      · rw [shared, drafted, managed]
        exact .loading missing

theorem Focus.loading
    (focus : Focus state after serving ⟨prompt, dir, .loading sizeMb⟩ phase)
    (matched : Matches state serving) (shared : after.shared = next)
    (moved : TaskMove state.shared ⟨prompt, dir, .loading sizeMb⟩
      (.loading sizeMb) next phase) :
    ∃ advanced, Advances serving advanced ∧ Matches after advanced := by
  have taken : state.shared.permits = 0 := Nat.add_eq_right.mp focus.permits
  obtain ⟨managed, drafted, missing⟩ := held_loading focus.held
  cases moved with
  | load =>
      refine focus.start matched drafted (some (some sizeMb)) none rfl rfl rfl
        ?_ (shared ▸ taken) (by rw [shared])
        (fun counts => shared ▸ ⟨counts.usage, counts.total⟩)
      rintro ending rfl
      rw [Option.isNone_none, ensureLoaded_loads missing, shared, managed]
      exact .tokenizing (AList.mem_insert _ |>.mpr (.inl rfl))
  | loadFailed _ cause =>
      refine focus.start matched drafted (some (some sizeMb)) (some cause) rfl
        rfl rfl ?_ (shared ▸ taken) (by rw [shared])
        (fun counts => shared ▸ ⟨counts.usage, counts.total⟩)
      rintro ending rfl
      rw [Option.isNone_some, ensureLoaded_fails missing, shared, managed]
      exact .caught

theorem Focus.tokenizing
    (focus : Focus state after serving ⟨prompt, dir, .tokenizing⟩ phase)
    (matched : Matches state serving) (shared : after.shared = next)
    (moved : TaskMove state.shared ⟨prompt, dir, .tokenizing⟩ .tokenizing next
      phase) :
    ∃ advanced, Advances serving advanced ∧ Matches after advanced := by
  obtain ⟨managed, drafted, resident⟩ := held_tokenizing focus.held
  cases moved with
  | tokenize promptTokens =>
      refine focus.stay matched (shared ▸ focus.permits) ?_ rfl
        (by rw [shared]) (fun counts => shared ▸ ⟨counts.usage, counts.total⟩)
      rw [shared, drafted, managed]
      exact @Held.inferring _ _ _ [] _ resident

theorem Focus.inferring {index : UInt32}
    (focus : Focus state after serving
      ⟨prompt, dir, .inferring promptTokens index⟩ phase)
    (matched : Matches state serving) (shared : after.shared = next)
    (moved : TaskMove state.shared ⟨prompt, dir, .inferring promptTokens index⟩
      (.inferring promptTokens index) next phase) :
    ∃ advanced, Advances serving advanced ∧ Matches after advanced := by
  obtain ⟨pieces, rfl, managed, drafted, resident⟩ := held_inferring focus.held
  cases moved with
  | skip =>
      refine focus.stay matched (shared ▸ focus.permits) ?_ rfl
        (by rw [shared]) (fun counts => shared ▸ ⟨counts.usage, counts.total⟩)
      rw [shared]
      exact focus.held
  | @piece _ _ delta nonempty =>
      refine focus.piece matched ⟨delta, nonempty⟩ drafted rfl rfl rfl ?_
        shared
      have grown := @Held.inferring _ prompt dir
        (pieces ++ [⟨delta, nonempty⟩]) promptTokens resident
      rw [List.length_append, List.length_singleton, UInt32.ofNat_add] at grown
      rw [managed]
      exact grown
  | complete =>
      refine focus.finish matched (.done promptTokens) drafted rfl rfl rfl ?_
        (by rw [shared]; rfl) (by rw [shared]; rfl)
        (fun counts => shared ▸ counts.done)
      have reporting := @Held.reporting serving.cache prompt dir pieces
        promptTokens
      rw [shared]
      exact managed ▸ reporting
  | throw _ _ message =>
      refine focus.finish matched (.failed message) drafted rfl rfl rfl ?_
        (by rw [shared]) (by rw [shared]) (fun counts => shared ▸ counts.failed)
      rw [shared, managed]
      exact .caught

theorem Focus.reporting {completionTokens : UInt32}
    (focus : Focus state after serving
      ⟨prompt, dir, .reporting promptTokens completionTokens⟩ phase)
    (matched : Matches state serving) (shared : after.shared = next)
    (moved : TaskMove state.shared
      ⟨prompt, dir, .reporting promptTokens completionTokens⟩
      (.reporting promptTokens completionTokens) next phase) :
    ∃ advanced, Advances serving advanced ∧ Matches after advanced := by
  obtain ⟨pieces, rfl, managed, drafted⟩ := held_reporting focus.held
  cases moved with
  | done =>
      exact focus.report matched drafted rfl rfl rfl rfl
        (managed ▸ .releasing) shared

theorem Focus.caught
    (focus : Focus state after serving ⟨prompt, dir, .caught message⟩ phase)
    (matched : Matches state serving) (shared : after.shared = next)
    (moved : TaskMove state.shared ⟨prompt, dir, .caught message⟩
      (.caught message) next phase) :
    ∃ advanced, Advances serving advanced ∧ Matches after advanced := by
  obtain ⟨pieces, managed, drafted⟩ := held_caught focus.held
  cases moved with
  | failed =>
      exact focus.report matched drafted rfl rfl rfl rfl
        (managed ▸ .releasing) shared

theorem Focus.releasing
    (focus : Focus state after serving ⟨prompt, dir, .releasing⟩ phase)
    (matched : Matches state serving) (shared : after.shared = next)
    (moved : TaskMove state.shared ⟨prompt, dir, .releasing⟩ .releasing next
      phase) :
    ∃ advanced, Advances serving advanced ∧ Matches after advanced := by
  have taken : state.shared.permits = 0 := Nat.add_eq_right.mp focus.permits
  have given : state.shared.release = { state.shared with permits := 1 } := by
    rw [Shared.release, taken]
    rfl
  obtain ⟨managed, drafted⟩ := held_releasing focus.held
  cases moved with
  | release =>
      rw [given] at shared
      refine focus.stay matched ?_ ?_ rfl (by rw [shared])
        (fun counts => shared ▸ ⟨counts.usage, counts.total⟩)
      · rw [shared]
        rfl
      · rw [shared, drafted, managed]
        exact .idle

end Phases

private theorem Matches.task_step (matched : Matches state serving)
    (whole : state.tasks = earlier ++ task :: later)
    (moved : TaskMove state.shared task task.phase next phase) :
    ∃ advanced, Advances serving advanced ∧
      Matches
        { shared := next, tasks := earlier ++ { task with phase } :: later }
        advanced := by
  have focus := @Matches.focus _ _ _ _ { shared := next, tasks := _ }
    serving _ _ matched whole rfl moved
  obtain ⟨prompt, dir, current⟩ := task
  cases current with
  | waiting => exact focus.waiting matched rfl moved
  | looking => exact focus.looking matched rfl moved
  | trimming sizeMb => exact focus.trimming matched rfl moved
  | loading sizeMb => exact focus.loading matched rfl moved
  | tokenizing => exact focus.tokenizing matched rfl moved
  | inferring promptTokens index => exact focus.inferring matched rfl moved
  | reporting promptTokens completionTokens =>
      exact focus.reporting matched rfl moved
  | caught message => exact focus.caught matched rfl moved
  | releasing => exact focus.releasing matched rfl moved
  | finished => cases moved

def Backend.accepts (state : Backend) : BackendEvent → Option PromptDispatch
  | .dispatch prompt _ =>
      if prompt.model ∈ state.shared.manager.ready then some prompt else none
  | _ => none

def Backend.refuses (state : Backend) : BackendEvent → Option PromptDispatch
  | .dispatch prompt _ =>
      if prompt.model ∈ state.shared.manager.ready then none else some prompt
  | _ => none

def accepted (history : History Backend BackendEvent) : List PromptDispatch :=
  history.filterMap fun (state, event) => state.accepts event

def refused (history : History Backend BackendEvent) : List PromptDispatch :=
  history.filterMap fun (state, event) => state.refuses event

structure Served (history : History Backend BackendEvent) (state : Backend)
    (server : Server) : Prop extends Matches state server where
  accepted : (accepted history).Perm server.prompts
  refused : refused history = server.refused

variable {history : History Backend BackendEvent} {event : BackendEvent}
variable {dir : String}

theorem Matches.register (matched : Matches state serving) :
    Matches
      { state with
        shared := { state.shared with
          manager := state.shared.manager.register id file } }
      { serving with cache := serving.cache.register id file } where
  permits := matched.permits
  held := matched.held.register
  waiting := matched.waiting
  sent := matched.sent
  counts := ⟨matched.counts.usage, matched.counts.total⟩

theorem Matches.submit (matched : Matches state serving) :
    Matches (state.dispatch prompt dir) (serving.submit prompt) := by
  unfold Backend.dispatch Server.submit
  rw [matched.held.ready]
  split
  · have holders : List.filter PromptTask.holds
        (state.tasks ++ [⟨prompt, dir, .waiting⟩]) = state.holders := by
      rw [List.filter_append]
      exact List.append_nil _
    have waiting : List.filter PromptTask.queued
        (state.tasks ++ [⟨prompt, dir, .waiting⟩]) =
        state.tasks.filter PromptTask.queued ++ [⟨prompt, dir, .waiting⟩] :=
      List.filter_append ..
    refine ⟨?_, ?_, ?_, matched.sent, matched.counts⟩
    · rw [Backend.holders, holders]
      exact matched.permits
    · rw [Backend.holders, holders]
      exact matched.held
    · rw [Backend.waiting, waiting, List.map_append]
      exact matched.waiting.append_right _
  · refine ⟨matched.permits, matched.held, matched.waiting, ?_,
      ⟨matched.counts.usage, matched.counts.total⟩⟩
    rw [List.map_append]
    exact matched.sent.right _

theorem Served.step (served : Served history state serving)
    (taken : (backend limitMb).step state event = some after) :
    ∃ next, (server limitMb).Reaches serving next ∧
      Served (history ++ [(state, event)]) after next := by
  cases event with
  | register id file =>
      obtain rfl := Option.some.inj taken
      refine ⟨_, @Reaches.of_step _ _ (server limitMb) _ _ (.register id file)
        rfl, served.toMatches.register, ?_, ?_⟩
      · rw [WindowsNode.accepted, List.filterMap_append]
        exact (List.append_nil _).symm ▸ served.accepted
      · rw [WindowsNode.refused, List.filterMap_append]
        exact (List.append_nil _).trans served.refused
  | dispatch prompt dir =>
      obtain rfl := Option.some.inj taken
      refine ⟨_, @Reaches.of_step _ _ (server limitMb) _ _ (.submit prompt)
        rfl, served.toMatches.submit, ?_, ?_⟩
      · rw [prompts_submit, ← served.held.ready, WindowsNode.accepted,
          List.filterMap_append]
        refine served.accepted.append (.of_eq ?_)
        by_cases ready : prompt.model ∈ state.shared.manager.ready
        · simp [Backend.accepts, ready]
        · simp [Backend.accepts, ready]
      · rw [refused_submit, ← served.held.ready, WindowsNode.refused,
          List.filterMap_append]
        refine congrArg₂ (· ++ ·) served.refused ?_
        by_cases ready : prompt.model ∈ state.shared.manager.ready
        · simp [Backend.refuses, ready]
        · simp [Backend.refuses, ready]
  | task index step =>
      obtain ⟨earlier, task, later, phase, whole, changed, moved⟩ :=
        task_moves taken
      obtain ⟨next, advance, matched⟩ := served.toMatches.task_step whole moved
      obtain ⟨prompts, refused⟩ := advance.prompts_perm
      refine ⟨next, advance.reaches, ?_, ?_, ?_⟩
      · rw [← changed] at matched
        exact matched
      · rw [WindowsNode.accepted, List.filterMap_append]
        exact (List.append_nil _).symm ▸ served.accepted.trans prompts.symm
      · rw [WindowsNode.refused, List.filterMap_append, refused]
        exact (List.append_nil _).trans served.refused

/-- The backend, its tasks and its lock, is a server without any. -/
def serves (limitMb : ℕ) : Simulation (backend limitMb) (server limitMb) where
  Related := Served
  start := {
    permits := rfl
    held := .idle
    waiting := .refl _
    sent := .nil
    counts := ⟨fun _ => rfl, rfl⟩
    accepted := .refl _
    refused := rfl }
  step _ served taken := served.step taken

def plainPrompt (id : RequestId) (model : ModelId) : PromptDispatch where
  requestId := id
  model
  payload := .object []

def workedEvents : List BackendEvent :=
  [.register "m" (some (some 1)), .dispatch (plainPrompt "r" "m") "models/m",
    .task 0 .wait, .task 0 (.look (some (some 1))),
    .dispatch (plainPrompt "s" "m") "models/m", .task 0 .trim,
    .task 0 (.load (.ok ())), .dispatch (plainPrompt "t" "n") "models/n",
    .task 0 (.tokenize (some 3)), .task 0 (.infer "a")]

def finishedEvents : List BackendEvent :=
  workedEvents ++
    [.task 0 (.infer ""), .task 0 (.infer "b"), .task 0 .complete,
      .task 0 .report, .task 0 .release, .task 1 .wait, .task 1 (.look none),
      .task 1 (.tokenize none), .task 1 (.throw "out of memory"),
      .task 1 .report, .task 1 .release]

variable {final : Backend}

/-- In every run the backend does what a server does that has neither tasks
nor a lock and loads each model in one step. -/
theorem serves_one_by_one (run : (backend limitMb).Run history final) :
    ∃ past serving, (server limitMb).Run past serving ∧
      Served history final serving :=
  (serves limitMb).run run

theorem serves_one_by_one_started :
    ∃ history final, (backend 10).Run history final ∧
      final.shared.sent.length = 2 ∧
      ∃ past serving, (server 10).Run past serving ∧
        Served history final serving := by
  obtain ⟨history, final, run, observed⟩ := (backend 10).exists_run_of_trace
    workedEvents (fun outcome => outcome.2.shared.sent.length == 2)
    (by decide +kernel)
  exact ⟨history, final, run, eq_of_beq observed, serves_one_by_one run⟩

def TaskPhase.infers : TaskPhase → Bool
  | .tokenizing | .inferring _ _ => true
  | _ => false

theorem Held.resident (held : Held cache holders manager draft)
    (member : task ∈ holders) (infers : task.phase.infers = true) :
    task.prompt.model ∈ manager.loaded := by
  cases held with
  | idle => cases member
  | tokenizing resident =>
      obtain rfl := List.mem_singleton.mp member
      exact resident
  | inferring resident =>
      obtain rfl := List.mem_singleton.mp member
      exact resident
  | _ =>
      obtain rfl := List.mem_singleton.mp member
      cases infers

private theorem exists_stepTask (holds : task.holds = true) :
    ∃ step, (stepTask shared task task.phase step).isSome = true := by
  obtain ⟨prompt, dir, phase⟩ := task
  cases phase with
  | waiting => cases holds
  | looking => exact ⟨.look none, rfl⟩
  | trimming sizeMb => exact ⟨.trim, rfl⟩
  | loading sizeMb => exact ⟨.load (.ok ()), rfl⟩
  | tokenizing => exact ⟨.tokenize none, rfl⟩
  | inferring promptTokens index => exact ⟨.complete, rfl⟩
  | reporting promptTokens completionTokens => exact ⟨.report, rfl⟩
  | caught message => exact ⟨.report, rfl⟩
  | releasing => exact ⟨.release, rfl⟩
  | finished => cases holds

theorem exists_taskStep {step : TaskStep} (member : task ∈ state.tasks)
    (moves : (stepTask state.shared task task.phase step).isSome = true) :
    ∃ index after, (backend limitMb).step state (.task index step) =
      some after := by
  obtain ⟨index, inside, rfl⟩ := List.getElem_of_mem member
  obtain ⟨moved, taken⟩ := Option.isSome_iff_exists.mp moves
  have steps : stepBackend state (.task index step) =
      some {
        shared := moved.1
        tasks := state.tasks.set index
          { state.tasks[index] with phase := moved.2 } } := by
    rw [stepBackend, List.getElem?_eq_getElem inside, Option.bind_some, taken]
    rfl
  exact ⟨index, _, steps⟩

private theorem Matches.goes_on (matched : Matches state serving)
    (member : task ∈ state.tasks) (unfinished : task.phase ≠ .finished) :
    ∃ index step after, (backend limitMb).step state (.task index step) =
      some after := by
  cases working : state.holders with
  | cons holder rest =>
      obtain ⟨own, holds⟩ := List.mem_filter.mp
        (working ▸ List.mem_cons_self : holder ∈ state.holders)
      obtain ⟨step, moves⟩ := @exists_stepTask state.shared _ holds
      obtain ⟨index, after, taken⟩ := @exists_taskStep _ _ limitMb _ own moves
      exact ⟨index, step, after, taken⟩
  | nil =>
      have free := matched.permits
      rw [working] at free
      have waiting : task.phase = .waiting := by
        have idle : task.holds ≠ true := by
          intro holds
          have working_too : task ∈ state.holders :=
            List.mem_filter.mpr ⟨member, holds⟩
          rw [working] at working_too
          cases working_too
        cases at_rest : task.phase with
        | waiting => rfl
        | finished => exact absurd at_rest unfinished
        | _ => exact absurd (congrArg TaskPhase.holds at_rest) idle
      have moves : (stepTask state.shared task task.phase .wait).isSome =
          true := by
        rw [waiting, stepTask, if_neg]
        · rfl
        · intro taken
          rw [taken] at free
          cases free
      obtain ⟨index, after, taken⟩ :=
        @exists_taskStep _ _ limitMb _ member moves
      exact ⟨index, .wait, after, taken⟩

/-- One task at a time has the semaphore, the model it works with is not
evicted under it, and as long as there is an unfinished task some task can take
a step. -/
theorem one_at_work (run : (backend limitMb).Run history final) :
    final.shared.permits + final.holders.length = 1 ∧
      (∀ task ∈ final.tasks, task.phase.infers = true →
        task.prompt.model ∈ final.shared.manager.loaded) ∧
      ((∃ task ∈ final.tasks, task.phase ≠ .finished) →
        ∃ index step after,
          (backend limitMb).step final (.task index step) = some after) := by
  obtain ⟨past, serving, -, served⟩ := (serves limitMb).run run
  refine ⟨served.permits, ?_, ?_⟩
  · intro task member infers
    have holds : task.phase.holds = true := by
      generalize task.phase = phase at infers
      cases phase with
      | tokenizing => rfl
      | inferring promptTokens index => rfl
      | _ => cases infers
    exact served.held.resident (List.mem_filter.mpr ⟨member, holds⟩) infers
  · rintro ⟨task, member, unfinished⟩
    exact served.goes_on member unfinished

theorem one_at_work_started :
    ∃ history final, (backend 10).Run history final ∧
      final.tasks.length = 2 ∧
      final.shared.permits + final.holders.length = 1 := by
  obtain ⟨history, final, run, observed⟩ := (backend 10).exists_run_of_trace
    workedEvents (fun outcome => outcome.2.tasks.length == 2)
    (by decide +kernel)
  exact ⟨history, final, run, eq_of_beq observed, (one_at_work run).1⟩

theorem Matches.at_rest (matched : Matches state serving)
    (finished : ∀ task ∈ state.tasks, task.phase = .finished) :
    serving.draft = none ∧ serving.waiting = [] := by
  have idle : state.holders = [] := by
    apply List.filter_eq_nil_iff.mpr
    intro task member
    rw [PromptTask.holds, finished task member]
    exact Bool.false_ne_true
  have served : state.waiting = [] := by
    apply List.map_eq_nil_iff.mpr
    apply List.filter_eq_nil_iff.mpr
    intro task member
    rw [PromptTask.queued, finished task member]
    exact Bool.false_ne_true
  refine ⟨?_, (served ▸ matched.waiting).nil_eq.symm⟩
  have held := matched.held
  rw [idle] at held
  generalize serving.draft = draft at held
  generalize state.shared.manager = manager at held
  cases held with
  | idle => rfl

/-- When all tasks are finished, each accepted prompt has one reply, the frames
of one reply are sent without any of another between them, and the counters are
what the replies add up to. -/
theorem answered_all (run : (backend limitMb).Run history final)
    (finished : ∀ task ∈ final.tasks, task.phase = .finished) :
    ∃ replies : List Reply,
      (∀ reply ∈ replies, reply.ending.isSome = true) ∧
      (accepted history).Perm (replies.map Reply.prompt) ∧
      Interleaved (replies.flatMap Reply.frames)
        ((refused history).map modelFileMissing) final.shared.sent ∧
      (∀ id, final.shared.usageOf id = counted replies id) ∧
      final.shared.totalCompletionTokens = countedTotal replies := by
  obtain ⟨past, serving, walk, served⟩ := (serves limitMb).run run
  obtain ⟨idle, none_waiting⟩ := served.at_rest finished
  have prompts := served.accepted
  rw [Server.prompts, idle, none_waiting] at prompts
  have sent := served.sent
  rw [Server.frames, idle, ← served.refused] at sent
  have counts := served.counts
  rw [Server.concluded, idle] at counts
  refine ⟨serving.replies, ended_run walk, ?_, ?_, ?_, ?_⟩
  · simpa using prompts
  · simpa using sent
  · simpa using counts.usage
  · simpa using counts.total

end JwSwarm.WindowsNode
