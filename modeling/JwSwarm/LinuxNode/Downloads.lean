import JwSwarm.Data.AssocMap
import JwSwarm.Data.ListSet
import JwSwarm.LinuxNode.Node

namespace JwSwarm.LinuxNode

open Data Proto Transition FleetManager Machine

/-! The tracker of the node's downloads: which calls of `download_model` are in
progress, and which failed entries may be tried again. -/

variable {app : AppState} {tunnel : TunnelId} {config : Config} {host : Host}
variable {awake : Bool} {peer : Peer}

def fingerprint (model : CatalogModel) : String × String :=
  (model.downloadUrl, model.sha256)

def Download.fetches (id : ModelId) (download : Download) : Bool :=
  download.model.id = id ∧ download.phase = .downloading

def inProgress (state : RunState) (id : ModelId) : ℕ :=
  state.downloads.countP (Download.fetches id)

def failing (state : RunState) : RunEvent → Option CatalogModel
  | .download task false => (state.downloads[task]?).map Download.model
  | _ => none

/-- Failures of `id` that no catalog with another entry for it has followed. -/
def standingTurn (id : ModelId) (standing : List (String × String))
    (taken : RunState × RunEvent) : List (String × String) :=
  match taken.2 with
  | .catalogResponse models =>
      standing.filter fun failed =>
        models.all fun model => model.id ≠ id ∨ fingerprint model = failed
  | event =>
      match failing taken.1 event with
      | some model =>
          if model.id = id then fingerprint model :: standing else standing
      | none => standing

def standing (id : ModelId) (history : History RunState RunEvent) :
    List (String × String) :=
  history.foldl (standingTurn id) []

/-- No task that the step spawns tries an entry whose failure still stands. -/
def NeverRetries (app : AppState) (tunnel : TunnelId) (config : Config)
    (host : Host) (history : History RunState RunEvent) (state : RunState)
    (event : RunEvent) : Prop :=
  ∀ after, step app tunnel config host state event = some after →
    ∀ download ∈ after.downloads.drop state.downloads.length,
      fingerprint download.model ∉ standing download.model.id history

/-- No failure that still stands is taken from the tracker's table, neither by
a task that has succeeded nor by the failure of another entry. -/
def keepsFailures (history : History RunState RunEvent) (state : RunState) :
    RunEvent → Bool
  | .download task false =>
      match state.downloads[task]? with
      | some download =>
          (standing download.model.id history).all
            (· = fingerprint download.model)
      | none => true
  | .advance task _ =>
      match state.downloads[task]? with
      | some download =>
          download.phase ≠ .untracked ∨
            standing download.model.id history = []
      | none => true
  | _ => true

def Download.tracked (download : Download) : Bool :=
  download.phase = .downloading ∨ download.phase = .downloaded

inductive TrackerStep (before after : RunState) : RunEvent → Prop
  | quiet {event : RunEvent} (settled : failing before event = none)
      (downloads : after.downloads = before.downloads)
      (downloading : after.downloading = before.downloading)
      (failed : after.failed = before.failed) : TrackerStep before after event
  | claimed {model : CatalogModel}
      (free : model.id ∉ before.downloading)
      (fresh : before.failed.lookup model.id ≠ some (fingerprint model))
      (downloads : after.downloads =
        before.downloads ++ [.mk model .downloading])
      (downloading : after.downloading = before.downloading.insert model.id)
      (failed : after.failed = before.failed) : TrackerStep before after .loop
  | failed {task : ℕ} {download : Download}
      (found : before.downloads[task]? = some download)
      (phase : download.phase = .downloading)
      (downloads : after.downloads =
        before.downloads.set task { download with phase := .finished })
      (downloading : after.downloading =
        before.downloading.erase download.model.id)
      (failed : after.failed = before.failed.insert download.model.id
        (fingerprint download.model)) :
      TrackerStep before after (.download task false)
  | succeeded {task : ℕ} {download : Download}
      (found : before.downloads[task]? = some download)
      (phase : download.phase = .downloading)
      (downloads : after.downloads =
        before.downloads.set task { download with phase := .downloaded })
      (downloading : after.downloading = before.downloading)
      (failed : after.failed = before.failed) :
      TrackerStep before after (.download task true)
  | untracked {task : ℕ} {sizeMb : Option ℕ} {download : Download}
      (found : before.downloads[task]? = some download)
      (phase : download.phase = .downloaded)
      (downloads : after.downloads =
        before.downloads.set task { download with phase := .untracked })
      (downloading : after.downloading =
        before.downloading.erase download.model.id)
      (failed : after.failed = before.failed) :
      TrackerStep before after (.advance task sizeMb)
  | forgiven {task : ℕ} {sizeMb : Option ℕ} {download : Download}
      (found : before.downloads[task]? = some download)
      (phase : download.phase = .untracked)
      (downloads : after.downloads =
        before.downloads.set task { download with phase := .forgiven })
      (downloading : after.downloading = before.downloading)
      (failed : after.failed = before.failed.erase download.model.id) :
      TrackerStep before after (.advance task sizeMb)
  | ending {task : ℕ} {sizeMb : Option ℕ} {download next : Download}
      (found : before.downloads[task]? = some download)
      (model : next.model = download.model)
      (left : download.tracked = false) (stays : next.tracked = false)
      (downloads : after.downloads = before.downloads.set task next)
      (downloading : after.downloading = before.downloading)
      (failed : after.failed = before.failed) :
      TrackerStep before after (.advance task sizeMb)

variable {history : History RunState RunEvent}
variable {before after final state : RunState} {event : RunEvent}
variable {id : ModelId}

private theorem trackerStep_loop {rest : List LoopOp} {op : LoopOp}
    (looped : LoopStep config before rest op after) :
    TrackerStep before after .loop := by
  cases looped with
  | claimed free fresh => exact .claimed free fresh rfl rfl rfl
  | sent | considered _ _ _ | passed _ | refused _ | reported =>
      exact .quiet rfl rfl rfl rfl

private theorem trackerStep_download {task : ℕ} {succeeds : Bool}
    (taken : stepDownload before task succeeds = some after) :
    TrackerStep before after (.download task succeeds) := by
  obtain ⟨download, found, ends⟩ := stepDownload_ends taken
  cases ends with
  | succeeded phase => exact .succeeded found phase rfl rfl rfl
  | failed phase => exact .failed found phase rfl rfl rfl

private theorem trackerStep_advance {task : ℕ} {sizeMb : Option ℕ}
    (taken : stepAdvance config before task sizeMb = some after) :
    TrackerStep before after (.advance task sizeMb) := by
  obtain ⟨download, found, advances⟩ := stepAdvance_advances taken
  cases advances with
  | untracked phase => exact .untracked found phase rfl rfl rfl
  | forgiven phase => exact .forgiven found phase rfl rfl rfl
  | registered phase =>
      exact .ending found (by rfl) (by simp [Download.tracked, phase]) (by rfl)
        rfl rfl rfl
  | reporting phase =>
      exact .ending found (by rfl) (by simp [Download.tracked, phase]) (by rfl)
        rfl rfl rfl
  | finished phase =>
      exact .ending found (by rfl) (by simp [Download.tracked, phase]) (by rfl)
        rfl rfl rfl

theorem trackerStep
    (taken : step app tunnel config host before event = some after) :
    TrackerStep before after event := by
  cases event with
  | download task succeeds => exact trackerStep_download taken
  | advance task sizeMb => exact trackerStep_advance taken
  | loop =>
      obtain ⟨op, rest, -, looped⟩ := step_loop taken
      exact trackerStep_loop looped
  | process now =>
      obtain ⟨_, _, -, rfl⟩ := step_process taken
      exact .quiet rfl rfl rfl rfl
  | connection connected =>
      obtain rfl := Option.some.inj taken
      exact .quiet rfl rfl rfl rfl
  | stream event =>
      obtain rfl := Option.some.inj taken
      exact .quiet rfl rfl rfl rfl
  | _ =>
      obtain ⟨-, rfl⟩ := wake_eq_some.mp taken
      exact .quiet rfl rfl rfl rfl

def Download.holds (id : ModelId) (download : Download) : Bool :=
  decide (download.model.id = id) && download.tracked

def Tracks (state : RunState) : Prop :=
  ∀ id, state.downloads.countP (Download.holds id) =
    if id ∈ state.downloading then 1 else 0

private theorem mem_insert_downloading {keys : KeySet ModelId} {key : ModelId} :
    id ∈ keys.insert key ↔ id = key ∨ id ∈ keys :=
  List.mem_insert_iff

private theorem mem_erase_downloading {keys : KeySet ModelId} {key : ModelId} :
    id ∈ keys.erase key ↔ id ≠ key ∧ id ∈ keys :=
  keys.nodup.mem_erase_iff

theorem Tracks.same {task : ℕ} {download next : Download}
    (tracks : Tracks before) (found : before.downloads[task]? = some download)
    (downloads : after.downloads = before.downloads.set task next)
    (downloading : after.downloading = before.downloading)
    (model : next.model = download.model)
    (same : next.tracked = download.tracked) : Tracks after := by
  intro id
  have counted : (before.downloads.set task next).countP (Download.holds id) +
      _ = _ := countP_set_add (Download.holds id) found
  have observed : next.holds id = download.holds id := by
    simp [Download.holds, model, same]
  rw [observed] at counted
  rw [downloads, downloading, ← tracks id]
  omega

theorem Tracks.leave {task : ℕ} {download : Download} {phase : DownloadPhase}
    (tracks : Tracks before) (found : before.downloads[task]? = some download)
    (tracked : download.tracked = true)
    (left : Download.tracked { download with phase } = false)
    (downloads : after.downloads =
      before.downloads.set task { download with phase })
    (downloading : after.downloading =
      before.downloading.erase download.model.id) : Tracks after := by
  intro id
  have counted : (before.downloads.set task { download with phase }).countP
      (Download.holds id) + _ = _ := countP_set_add (Download.holds id) found
  have gone : Download.holds id { download with phase } = false := by
    simp [Download.holds, left]
  have one := tracks id
  rw [gone] at counted
  rw [downloads, downloading]
  simp only [mem_erase_downloading]
  by_cases same : id = download.model.id
  · have held : download.holds id = true := by
      simp [Download.holds, same, tracked]
    rw [held] at counted
    simp only [same, ne_eq, not_true_eq_false, false_and, if_false]
    rw [← same]
    split at one <;> simp at counted <;> omega
  · have other : download.holds id = false := by
      simp [Download.holds, Ne.symm same]
    rw [other] at counted
    simp only [ne_eq, same, not_false_eq_true, true_and]
    rw [← one]
    simpa using counted

theorem Tracks.step (tracks : Tracks before)
    (taken : TrackerStep before after event) : Tracks after := by
  cases taken with
  | quiet settled downloads downloading failed =>
      intro id
      rw [downloads, downloading]
      exact tracks id
  | @claimed model free fresh downloads downloading failed =>
      intro id
      rw [downloads, downloading, List.countP_append, tracks id]
      simp only [mem_insert_downloading]
      by_cases same : id = model.id
      · simp [same, free, Download.holds, Download.tracked]
      · simp [same, Ne.symm same, Download.holds]
  | failed found phase downloads downloading failed =>
      exact tracks.leave found (by simp [Download.tracked, phase]) rfl downloads
        downloading
  | succeeded found phase downloads downloading failed =>
      exact tracks.same found downloads downloading rfl
        (by simp [Download.tracked, phase])
  | untracked found phase downloads downloading failed =>
      exact tracks.leave found (by simp [Download.tracked, phase]) rfl downloads
        downloading
  | forgiven found phase downloads downloading failed =>
      exact tracks.same found downloads downloading rfl
        (by simp [Download.tracked, phase])
  | ending found model left stays downloads downloading failed =>
      exact tracks.same found downloads downloading model
        (stays.trans left.symm)

private theorem tracks_run
    (run : (node app tunnel config host awake peer).Run history final) :
    Tracks final := by
  induction run with
  | start =>
      intro id
      rfl
  | next run taken tracks => exact tracks.step (trackerStep taken)

theorem Tracks.exclusive (tracks : Tracks state) (id : ModelId) :
    inProgress state id ≤ 1 := by
  have fewer : inProgress state id ≤
      state.downloads.countP (Download.holds id) := by
    apply List.countP_mono_left
    intro download _ fetches
    obtain ⟨model, phase⟩ := of_decide_eq_true fetches
    simp [Download.holds, Download.tracked, model, phase]
  rw [tracks id] at fewer
  split at fewer <;> omega

def Remembers (history : History RunState RunEvent) (state : RunState) : Prop :=
  ∀ id, ∀ failed ∈ standing id history, state.failed.lookup id = some failed

theorem standing_concat : standing id (history ++ [(state, event)]) =
    standingTurn id (standing id history) (state, event) := by
  rw [standing, standing, List.foldl_append]
  rfl

/-- Catalogs only ever answer failures. -/
theorem standingTurn_sublist {failures : List (String × String)}
    (settled : failing state event = none) :
    (standingTurn id failures (state, event)).Sublist failures := by
  cases event with
  | catalogResponse models => exact List.filter_sublist
  | _ => simp [standingTurn, settled]

private theorem standingTurn_failing {failures : List (String × String)}
    {model : CatalogModel} (failed : failing state event = some model) :
    standingTurn id failures (state, event) =
      if model.id = id then fingerprint model :: failures else failures := by
  cases event with
  | catalogResponse models => cases failed
  | _ => simp [standingTurn, failed]

theorem Remembers.settled (remembers : Remembers history before)
    (settled : failing before event = none)
    (failed : ∀ id, standing id history ≠ [] →
      after.failed.lookup id = before.failed.lookup id) :
    Remembers (history ++ [(before, event)]) after := by
  intro id print member
  rw [standing_concat] at member
  have stands := (standingTurn_sublist settled).subset member
  rw [failed id (List.ne_nil_of_mem stands)]
  exact remembers id print stands

theorem Remembers.step (remembers : Remembers history before)
    (kept : keepsFailures history before event = true)
    (taken : TrackerStep before after event) :
    Remembers (history ++ [(before, event)]) after := by
  cases taken with
  | quiet settled downloads downloading failed =>
      exact remembers.settled settled fun _ _ => by rw [failed]
  | claimed free fresh downloads downloading failed =>
      exact remembers.settled rfl fun _ _ => by rw [failed]
  | @failed task download found phase downloads downloading failed =>
      have fails : failing before (.download task false) =
          some download.model := by simp [failing, found]
      simp only [keepsFailures, found, List.all_eq_true, decide_eq_true_eq]
        at kept
      intro id print member
      rw [standing_concat, standingTurn_failing fails] at member
      rw [failed, lookup_insert_apply]
      split at member
      · next same =>
          rw [if_pos same.symm]
          rcases List.mem_cons.mp member with rfl | member
          · rfl
          · subst same
            rw [kept print member]
      · next other =>
          rw [if_neg (Ne.symm other)]
          exact remembers id print member
  | succeeded found phase downloads downloading failed =>
      exact remembers.settled rfl fun _ _ => by rw [failed]
  | untracked found phase downloads downloading failed =>
      exact remembers.settled rfl fun _ _ => by rw [failed]
  | @forgiven task sizeMb download found phase downloads downloading failed =>
      simp only [keepsFailures, found, phase] at kept
      have answered : standing download.model.id history = [] := by
        simpa using kept
      apply remembers.settled rfl
      intro id stands
      rw [failed, lookup_erase_apply, if_neg]
      rintro rfl
      exact stands answered
  | ending found model left stays downloads downloading failed =>
      exact remembers.settled rfl fun _ _ => by rw [failed]

private theorem remembers_run
    (run : (node app tunnel config host awake peer).Run history final)
    (kept : Guarded (fun earlier state event =>
      keepsFailures earlier state event = true) history) :
    Remembers history final := by
  apply Run.guarded_invariant _ _ run kept
  · intro id print member
    exact absurd member List.not_mem_nil
  · intro past before event after _ remembers kept taken
    exact remembers.step kept (trackerStep taken)

private theorem Remembers.neverRetries (remembers : Remembers history state) :
    NeverRetries app tunnel config host history state event := by
  intro after taken download spawned
  cases trackerStep taken with
  | quiet settled downloads downloading failed =>
      rw [downloads, List.drop_length] at spawned
      cases spawned
  | @claimed model free fresh downloads downloading failed =>
      rw [downloads, List.drop_left] at spawned
      obtain rfl := List.mem_singleton.mp spawned
      intro stands
      exact fresh (remembers model.id _ stands)
  | _ =>
      next downloads _ _ =>
        rw [downloads, List.drop_eq_nil_of_le (by simp)] at spawned
        cases spawned

/-- In every run each model has at most one download in progress. A failed
entry stays untried until a catalog with another one arrives, when no failure
is taken from the table before that. -/
theorem downloads_exclusive_without_retry
    (run : (node app tunnel config host awake peer).Run history final) :
    (∀ id, inProgress final id ≤ 1) ∧
      (Guarded (fun earlier state event =>
          keepsFailures earlier state event = true) history →
        Guarded (NeverRetries app tunnel config host) history) := by
  constructor
  · exact (tracks_run run).exclusive
  · intro kept earlier state event inside
    have before : earlier <+: history := (List.prefix_append _ _).trans inside
    exact (remembers_run (run.of_prefix inside)
      (kept.of_prefix before)).neverRetries

private def trackedModel (sha256 : String) : CatalogModel where
  id := "m"
  displayName := "m"
  downloadUrl := "u"
  sha256
  sizeBytes := 1000000000
  contextLength := 4096
  paramsBillions := 1
  backend := .llamaCpp

def trackedConfig : Config where
  nodeId := "node"
  hostname := "host"
  limits := { gpuPowerPct := 100, memoryLimitMb := 512 }
  selectedModels := []

def trackedNode : Machine RunState RunEvent :=
  node bareApp 0 trackedConfig { vendor := .nvidia, gpuName := "gpu" } true {}

private def offers (sha256 : String) : List RunEvent :=
  [.catalogResponse [trackedModel sha256], .loop, .loop, .loop, .loop]

/-- The second catalog's entry is tried after the first one's has failed. -/
theorem downloads_exclusive_two_entries :
    ∃ history final, trackedNode.Run history final ∧
      final.downloads.map (fun download =>
        (download.model.sha256, download.phase)) =
        [("a", .finished), ("b", .downloading)] ∧
      (∀ id, inProgress final id ≤ 1) ∧
      Guarded (NeverRetries bareApp 0 trackedConfig
        { vendor := .nvidia, gpuName := "gpu" }) history := by
  obtain ⟨history, final, run, observed⟩ :=
    trackedNode.exists_run_of_trace
      (offers "a" ++ [.download 0 false] ++ offers "a" ++ offers "b")
      (fun outcome =>
        outcome.2.downloads.map (fun download =>
          (download.model.sha256, download.phase)) =
          [("a", .finished), ("b", .downloading)] ∧
        admits keepsFailures [] outcome.1 = true)
      (by decide +kernel)
  obtain ⟨downloads, admitted⟩ := of_decide_eq_true observed
  obtain ⟨exclusive, kept⟩ := downloads_exclusive_without_retry run
  exact ⟨history, final, run, downloads, exclusive,
    kept (guarded_of_admits admitted)⟩

/-- The first download succeeds and leaves the tracker's set. Before the task
gets to the table of failures, the second entry is tried and fails; the task
then takes this failure from it. The model stays too large to be ready. -/
private def racingEvents : List RunEvent :=
  offers "a" ++ [.download 0 true, .advance 0 none] ++ offers "b" ++
    [.download 1 false, .advance 0 none, .advance 0 (some 954),
      .advance 0 none, .advance 0 none] ++ (offers "b").take 2

theorem failed_entry_tried_again :
    ∃ history final, trackedNode.Run history final ∧
      ¬ Guarded (NeverRetries bareApp 0 trackedConfig
        { vendor := .nvidia, gpuName := "gpu" }) history := by
  obtain ⟨history, before, run, observed⟩ :=
    trackedNode.exists_run_of_trace racingEvents
      (fun outcome =>
        (trackedNode.step outcome.2 .loop).any fun after =>
          (after.downloads.drop outcome.2.downloads.length).any fun download =>
            fingerprint download.model ∈
              standing download.model.id outcome.1)
      (by decide +kernel)
  obtain ⟨after, taken, spawned⟩ := Option.any_eq_true _ _ |>.mp observed
  obtain ⟨download, member, stands⟩ := List.any_eq_true.mp spawned
  refine ⟨_, after, run.next taken, fun guarded => ?_⟩
  exact (guarded_concat.mp guarded).2 after taken download member
    (of_decide_eq_true stands)

end JwSwarm.LinuxNode
