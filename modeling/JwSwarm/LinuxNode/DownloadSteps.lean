import Mathlib.Data.List.Infix
import JwSwarm.LinuxNode.Models
import JwSwarm.Transition.Machine

namespace JwSwarm.LinuxNode

open Data Proto Transition Machine

/-! `download_model` one file-system call at a time. Every call may fail, and
the process may be killed after any of them. -/

/-- Where a download is. `failed` tells whether the bytes had been verified. -/
inductive FetchPhase where
  | starting
  | preparing
  | clearing
  | requesting
  | creating
  | streaming (received : String)
  | comparing (received : String)
  | discarding
  | removing (received : String)
  | moving (received : String)
  | unlinking
  | linking
  | marking
  | failed (verified : Bool)
  | succeeded
  deriving DecidableEq

def FetchPhase.unverified : FetchPhase → Bool
  | .removing _ | .moving _ | .unlinking | .linking | .marking => false
  | .failed verified => !verified
  | .succeeded => false
  | _ => true

structure FetchState where
  dir : ModelDirectory
  phase : FetchPhase

/-- How the write of the marker ends, a kill in the middle of it included: the
file may hold a part of the hash. -/
inductive MarkerWrite where
  | unopened
  | torn (kept : String)
  | whole

inductive FileCall where
  | check (reads : Bool)
  | prepare (succeeds : Bool)
  | remove (succeeds : Bool)
  | respond (succeeds : Bool)
  | create (succeeds : Bool)
  | chunk (bytes onDisk : String)
  | interrupt
  | flush (succeeds : Bool)
  | compare
  | rename (succeeds : Bool)
  | link (made : Option LinkEnd)
  | mark (written : MarkerWrite)

def tryLink (dir : ModelDirectory) (filename : String) :
    Option LinkEnd → ModelDirectory
  | some leads => dir.link (leads.entry filename)
  | none => dir

def writeMarker (dir : ModelDirectory) (sha256 : String) :
    MarkerWrite → Option FetchState
  | .unopened => some ⟨dir, .failed true⟩
  | .torn kept =>
      if kept.toList <+: sha256.toList then
        some ⟨dir.write "sha256" kept, .failed true⟩
      else none
  | .whole => some ⟨dir.write "sha256" sha256, .succeeded⟩

def stepFetch (libraries : Libraries) (model : CatalogModel)
    (state : FetchState) (event : FileCall) : Option FetchState :=
  let filename := remoteFilename libraries model.downloadUrl
  let part := partName filename
  let dir := state.dir
  match state.phase, event with
  | .starting, .check reads =>
      some ⟨dir, if reads && alreadyVerified dir.entries model then .succeeded
        else .preparing⟩
  | .preparing, .prepare succeeds =>
      some ⟨dir, if succeeds then .clearing else .failed false⟩
  | .clearing, .remove succeeds =>
      some ⟨tryRemove dir part succeeds, .requesting⟩
  | .requesting, .respond succeeds =>
      some ⟨dir, if succeeds then .creating else .failed false⟩
  | .creating, .create succeeds =>
      if succeeds then some ⟨dir.write part "", .streaming ""⟩
      else some ⟨dir, .failed false⟩
  | .streaming received, .chunk bytes onDisk =>
      -- The writer is buffered: the disk may be behind.
      if onDisk.toList <+: (received ++ bytes).toList then
        some ⟨dir.write part onDisk, .streaming (received ++ bytes)⟩
      else none
  | .streaming _, .interrupt => some ⟨dir, .discarding⟩
  | .streaming received, .flush succeeds =>
      if succeeds then some ⟨dir.write part received, .comparing received⟩
      else some ⟨dir, .discarding⟩
  | .comparing received, .compare =>
      some ⟨dir,
        if Verified libraries model.sha256 received then .removing received
        else .discarding⟩
  | .discarding, .remove succeeds =>
      some ⟨tryRemove dir part succeeds, .failed false⟩
  | .removing received, .remove succeeds =>
      some ⟨tryRemove dir filename succeeds, .moving received⟩
  | .moving received, .rename succeeds =>
      if succeeds then
        some ⟨(dir.remove part).write filename received,
          if filename = "weights.bin" then .marking else .unlinking⟩
      else some ⟨dir, .failed true⟩
  | .unlinking, .remove succeeds =>
      some ⟨tryRemove dir "weights.bin" succeeds, .linking⟩
  | .linking, .link made => some ⟨tryLink dir filename made, .marking⟩
  | .marking, .mark written => writeMarker dir model.sha256 written
  | _, _ => none

def downloading (libraries : Libraries) (model : CatalogModel)
    (dir : ModelDirectory) : Machine FetchState FileCall where
  init := ⟨dir, .starting⟩
  step := stepFetch libraries model

variable {libraries : Libraries} {model : CatalogModel} {dir : ModelDirectory}
variable {before after final : FetchState} {event : FileCall}

/-- Until the bytes are verified, only the partial file changes. -/
inductive Progress (libraries : Libraries) (model : CatalogModel)
    (before : FetchState) : FileCall → FetchState → Prop
  | settled {reads : Bool} (phase : before.phase = .starting)
      (settled : (reads && alreadyVerified before.dir.entries model) = true) :
      Progress libraries model before (.check reads) ⟨before.dir, .succeeded⟩
  | aside {event : FileCall} {phase : FetchPhase} (part : Partial)
      (unverified : before.phase.unverified = true)
      (next : phase.unverified = true)
      (started : phase ≠ .starting)
      (whole : ∀ received, phase = .comparing received →
        part = .left received) :
      Progress libraries model before event ⟨before.dir.stop
        (remoteFilename libraries model.downloadUrl) part, phase⟩
  | verified {received : String} (phase : before.phase = .comparing received)
      (verified : Verified libraries model.sha256 received) :
      Progress libraries model before .compare
        ⟨before.dir, .removing received⟩
  | removed {received : String} {succeeds : Bool}
      (phase : before.phase = .removing received) :
      Progress libraries model before (.remove succeeds)
        ⟨tryRemove before.dir (remoteFilename libraries model.downloadUrl)
          succeeds, .moving received⟩
  | unrenamed {received : String} (phase : before.phase = .moving received) :
      Progress libraries model before (.rename false)
        ⟨before.dir, .failed true⟩
  | renamed {received : String} (phase : before.phase = .moving received) :
      Progress libraries model before (.rename true)
        ⟨(before.dir.remove
            (partName (remoteFilename libraries model.downloadUrl))).write
          (remoteFilename libraries model.downloadUrl) received,
          if remoteFilename libraries model.downloadUrl = "weights.bin" then
            .marking
          else .unlinking⟩
  | unlinked {succeeds : Bool} (phase : before.phase = .unlinking) :
      Progress libraries model before (.remove succeeds)
        ⟨tryRemove before.dir "weights.bin" succeeds, .linking⟩
  | linked {made : Option LinkEnd} (phase : before.phase = .linking) :
      Progress libraries model before (.link made)
        ⟨tryLink before.dir (remoteFilename libraries model.downloadUrl) made,
          .marking⟩
  | unmarked (phase : before.phase = .marking) :
      Progress libraries model before (.mark .unopened)
        ⟨before.dir, .failed true⟩
  | torn {kept : String} (phase : before.phase = .marking)
      (part : kept.toList <+: model.sha256.toList) :
      Progress libraries model before (.mark (.torn kept))
        ⟨before.dir.write "sha256" kept, .failed true⟩
  | marked (phase : before.phase = .marking) :
      Progress libraries model before (.mark .whole)
        ⟨before.dir.write "sha256" model.sha256, .succeeded⟩

theorem lookup_tryRemove_ne {name other : String} {succeeds : Bool}
    (distinct : other ≠ name) :
    (tryRemove dir name succeeds).entries.lookup other =
      dir.entries.lookup other := by
  cases succeeds with
  | false => rfl
  | true => exact ModelDirectory.lookup_remove_ne distinct

theorem lookup_stop_ne {filename name : String} {part : Partial}
    (distinct : name ≠ partName filename) :
    (dir.stop filename part).entries.lookup name = dir.entries.lookup name := by
  cases part with
  | kept => rfl
  | removed => exact ModelDirectory.lookup_remove_ne distinct
  | left content => exact ModelDirectory.lookup_write_ne distinct

private theorem Progress.pause {phase : FetchPhase}
    (unverified : before.phase.unverified = true)
    (next : phase.unverified = true) (started : phase ≠ .starting)
    (whole : ∀ received, phase ≠ .comparing received) :
    Progress libraries model before event ⟨before.dir, phase⟩ :=
  .aside .kept unverified next started
    fun received same => absurd same (whole received)

private theorem Progress.cleared {phase : FetchPhase} {succeeds : Bool}
    (unverified : before.phase.unverified = true)
    (next : phase.unverified = true) (started : phase ≠ .starting)
    (whole : ∀ received, phase ≠ .comparing received) :
    Progress libraries model before event ⟨tryRemove before.dir
      (partName (remoteFilename libraries model.downloadUrl)) succeeds,
      phase⟩ := by
  cases succeeds with
  | false => exact .pause unverified next started whole
  | true =>
      exact .aside .removed unverified next started
        fun received same => absurd same (whole received)

theorem stepFetch_progress
    (taken : stepFetch libraries model before event = some after) :
    Progress libraries model before event after := by
  obtain ⟨dir, phase⟩ := before
  unfold stepFetch at taken
  simp only at taken
  split at taken
  · obtain rfl := Option.some.inj taken
    split
    · next settled => exact .settled rfl settled
    · exact .pause rfl rfl nofun nofun
  · next succeeds =>
      obtain rfl := Option.some.inj taken
      cases succeeds with
      | true => exact .pause rfl rfl nofun nofun
      | false => exact .pause rfl rfl nofun nofun
  · obtain rfl := Option.some.inj taken
    exact .cleared rfl rfl nofun nofun
  · next succeeds =>
      obtain rfl := Option.some.inj taken
      cases succeeds with
      | true => exact .pause rfl rfl nofun nofun
      | false => exact .pause rfl rfl nofun nofun
  · split at taken
    · obtain rfl := Option.some.inj taken
      exact .aside (.left "") rfl rfl nofun nofun
    · obtain rfl := Option.some.inj taken
      exact .pause rfl rfl nofun nofun
  · next onDisk =>
      split at taken
      · obtain rfl := Option.some.inj taken
        exact .aside (.left onDisk) rfl rfl nofun nofun
      · cases taken
  · obtain rfl := Option.some.inj taken
    exact .pause rfl rfl nofun nofun
  · next received succeeds =>
      split at taken
      · obtain rfl := Option.some.inj taken
        refine .aside (.left received) rfl rfl nofun ?_
        rintro _ ⟨⟩
        rfl
      · obtain rfl := Option.some.inj taken
        exact .pause rfl rfl nofun nofun
  · next received =>
      obtain rfl := Option.some.inj taken
      split
      · next verified => exact .verified rfl verified
      · exact .pause rfl rfl nofun nofun
  · obtain rfl := Option.some.inj taken
    exact .cleared rfl rfl nofun nofun
  · obtain rfl := Option.some.inj taken
    exact .removed rfl
  · next received succeeds =>
      cases succeeds with
      | true =>
          obtain rfl := Option.some.inj taken
          exact .renamed rfl
      | false =>
          obtain rfl := Option.some.inj taken
          exact .unrenamed rfl
  · obtain rfl := Option.some.inj taken
    exact .unlinked rfl
  · obtain rfl := Option.some.inj taken
    exact .linked rfl
  · next written =>
      cases written with
      | unopened =>
          obtain rfl := Option.some.inj taken
          exact .unmarked rfl
      | torn kept =>
          simp only [writeMarker] at taken
          split at taken
          · next part =>
              obtain rfl := Option.some.inj taken
              exact .torn rfl part
          · cases taken
      | whole =>
          obtain rfl := Option.some.inj taken
          exact .marked rfl
  · cases taken

def Alike (dir other : ModelDirectory) : Prop :=
  ∀ name, dir.entries.lookup name = other.entries.lookup name

section Alike

variable {other last : ModelDirectory} {filename content name : String}

theorem Alike.trans (alike : Alike dir other) (further : Alike other last) :
    Alike dir last :=
  fun name => (alike name).trans (further name)

theorem Alike.remove (alike : Alike dir other) :
    Alike (dir.remove name) (other.remove name) := by
  intro key
  rw [ModelDirectory.lookup_remove, ModelDirectory.lookup_remove, alike key]

theorem Alike.write (alike : Alike dir other) :
    Alike (dir.write name content) (other.write name content) := by
  intro key
  rw [ModelDirectory.lookup_write, ModelDirectory.lookup_write, alike key]

theorem Alike.tryRemove {succeeds : Bool} (alike : Alike dir other) :
    Alike (tryRemove dir name succeeds) (tryRemove other name succeeds) := by
  cases succeeds with
  | false => exact alike
  | true => exact alike.remove

theorem Alike.link {made : FileEntry} (alike : Alike dir other) :
    Alike (dir.link made) (other.link made) := by
  intro key
  rw [ModelDirectory.lookup_link, ModelDirectory.lookup_link, alike key,
    alike "weights.bin"]

theorem Alike.tryLink {made : Option LinkEnd} (alike : Alike dir other) :
    Alike (tryLink dir filename made) (tryLink other filename made) := by
  cases made with
  | none => exact alike
  | some leads => exact alike.link

theorem Alike.stop {part : Partial} (alike : Alike dir other) :
    Alike (dir.stop filename part) (other.stop filename part) := by
  cases part with
  | kept => exact alike
  | removed => exact alike.remove
  | left content => exact alike.write

/-- What becomes of the partial file last counts. -/
def Partial.update (earlier : Partial) : Partial → Partial
  | .kept => earlier
  | later => later

theorem stop_stop {earlier later : Partial} :
    Alike ((dir.stop filename earlier).stop filename later)
      (dir.stop filename (earlier.update later)) := by
  intro name
  cases later with
  | kept => rfl
  | removed =>
      cases earlier with
      | kept => rfl
      | removed =>
          simp only [ModelDirectory.stop, Partial.update,
            ModelDirectory.lookup_remove]
          split <;> rfl
      | left content =>
          simp only [ModelDirectory.stop, Partial.update,
            ModelDirectory.lookup_remove, ModelDirectory.lookup_write]
          split <;> rfl
  | left content =>
      cases earlier with
      | kept => rfl
      | removed =>
          simp only [ModelDirectory.stop, Partial.update,
            ModelDirectory.lookup_remove, ModelDirectory.lookup_write]
          split <;> rfl
      | left first =>
          simp only [ModelDirectory.stop, Partial.update,
            ModelDirectory.lookup_write]
          split <;> rfl

theorem renamed_alike {succeeds : Bool} :
    Alike (((tryRemove (dir.stop filename (.left content)) filename
        succeeds).remove (partName filename)).write filename content)
      (dir.place filename content .kept) := by
  intro name
  rw [ModelDirectory.lookup_place, ModelDirectory.lookup_write,
    ModelDirectory.lookup_remove]
  split_ifs with artifact part weights
  · rfl
  · rfl
  · rw [lookup_tryRemove_ne artifact, lookup_stop_ne part, weights]
    rfl
  · rw [lookup_tryRemove_ne artifact, lookup_stop_ne part]

end Alike

/-- What has become of the directory in which the download started. -/
def Course (libraries : Libraries) (model : CatalogModel)
    (dir : ModelDirectory) (state : FetchState) : Prop :=
  let filename := remoteFilename libraries model.downloadUrl
  let verified := Verified libraries model.sha256
  match state.phase with
  | .starting => state.dir = dir
  | .comparing received =>
      Alike state.dir (dir.stop filename (.left received))
  | .removing received =>
      verified received ∧ Alike state.dir (dir.stop filename (.left received))
  | .moving received =>
      verified received ∧ ∃ removed, Alike state.dir
        (tryRemove (dir.stop filename (.left received)) filename removed)
  | .unlinking => filename ≠ "weights.bin" ∧ ∃ content, verified content ∧
      Alike state.dir (dir.place filename content .kept)
  | .linking => filename ≠ "weights.bin" ∧ ∃ content, verified content ∧
      (Alike state.dir (dir.place filename content .kept) ∨
        Alike state.dir (dir.place filename content .removed))
  | .marking => ∃ content legacy, verified content ∧
      Alike state.dir (dir.place filename content legacy)
  | .failed true => ∃ fetch,
      Alike state.dir (downloadModel libraries model dir false fetch).1 ∧
        (downloadModel libraries model dir false fetch).2 = false
  | .succeeded => ∃ reads fetch,
      Alike state.dir (downloadModel libraries model dir reads fetch).1 ∧
        (downloadModel libraries model dir reads fetch).2 = true
  | _ => ∃ part, Alike state.dir (dir.stop filename part)

private theorem Course.stopped (course : Course libraries model dir before)
    (unverified : before.phase.unverified = true) :
    ∃ part, Alike before.dir
      (dir.stop (remoteFilename libraries model.downloadUrl) part) := by
  obtain ⟨current, phase⟩ := before
  cases phase with
  | starting =>
      obtain rfl := course
      exact ⟨.kept, fun _ => rfl⟩
  | comparing received => exact ⟨_, course⟩
  | failed verified =>
      cases verified with
      | true => cases unverified
      | false => exact course
  | removing received => cases unverified
  | moving received => cases unverified
  | unlinking => cases unverified
  | linking => cases unverified
  | marking => cases unverified
  | succeeded => cases unverified
  | _ => exact course

private theorem Course.of_stopped {part : Partial} {phase : FetchPhase}
    {current : ModelDirectory}
    (alike : Alike current
      (dir.stop (remoteFilename libraries model.downloadUrl) part))
    (unverified : phase.unverified = true) (started : phase ≠ .starting)
    (whole : ∀ received, phase = .comparing received →
      part = .left received) :
    Course libraries model dir ⟨current, phase⟩ := by
  cases phase with
  | starting => exact absurd rfl started
  | comparing received =>
      rw [whole received rfl] at alike
      exact alike
  | failed verified =>
      cases verified with
      | true => cases unverified
      | false => exact ⟨part, alike⟩
  | removing received => cases unverified
  | moving received => cases unverified
  | unlinking => cases unverified
  | linking => cases unverified
  | marking => cases unverified
  | succeeded => cases unverified
  | _ => exact ⟨part, alike⟩

private theorem place_legacy {filename content : String} {legacy : Legacy}
    (named : filename = "weights.bin") :
    dir.place filename content legacy = dir.place filename content .kept := by
  unfold ModelDirectory.place
  simp only [if_pos named]

private theorem place_removed {filename content : String}
    (named : filename ≠ "weights.bin") :
    dir.place filename content .removed =
      (dir.place filename content .kept).remove "weights.bin" := by
  unfold ModelDirectory.place
  simp only [if_neg named]

private theorem place_linked {filename content : String} {leads : LinkEnd}
    (named : filename ≠ "weights.bin") :
    dir.place filename content (.linked leads) =
      (dir.place filename content .removed).link (leads.entry filename) := by
  unfold ModelDirectory.place
  simp only [if_neg named]

private theorem tryLink_place {filename content : String}
    {made : Option LinkEnd} {current : ModelDirectory}
    (named : filename ≠ "weights.bin")
    (alike : Alike current (dir.place filename content .kept) ∨
      Alike current (dir.place filename content .removed)) :
    ∃ legacy, Alike (tryLink current filename made)
      (dir.place filename content legacy) := by
  cases made with
  | none =>
      rcases alike with alike | alike
      · exact ⟨.kept, alike⟩
      · exact ⟨.removed, alike⟩
  | some leads =>
      rcases alike with alike | alike
      · by_cases free : dir.entries.lookup "weights.bin" = none
        · refine ⟨.linked leads, alike.link.trans fun name => ?_⟩
          rw [place_linked named, place_removed named]
          simp only [ModelDirectory.lookup_link, ModelDirectory.lookup_remove,
            ModelDirectory.lookup_place, named.symm,
            (partName_ne_legacy filename).symm, Legacy.leaves, free, if_true,
            if_false, and_true]
          split_ifs <;> rfl
        · refine ⟨.kept, alike.link.trans fun name => ?_⟩
          rw [ModelDirectory.lookup_link, if_neg]
          rintro ⟨-, gone⟩
          rw [ModelDirectory.lookup_place, if_neg named.symm,
            if_neg (partName_ne_legacy filename).symm, if_pos rfl] at gone
          exact free gone
      · refine ⟨.linked leads, ?_⟩
        rw [place_linked named]
        exact alike.link

private theorem course_step (course : Course libraries model dir before)
    (progress : Progress libraries model before event after) :
    Course libraries model dir after := by
  have begun := course
  obtain ⟨current, phase⟩ := before
  cases progress with
  | @settled reads at_ settled =>
      obtain rfl := at_
      obtain rfl := course
      refine ⟨reads, .stopped .kept, ?_⟩
      simp only [downloadModel, settled, if_true]
      exact ⟨fun _ => rfl, trivial⟩
  | aside part unverified next started whole =>
      obtain ⟨earlier, alike⟩ := begun.stopped unverified
      refine .of_stopped (alike.stop.trans stop_stop) next started
        fun received same => ?_
      rw [whole received same]
      rfl
  | verified at_ verified =>
      obtain rfl := at_
      exact ⟨verified, course⟩
  | @removed received succeeds at_ =>
      obtain rfl := at_
      obtain ⟨verified, alike⟩ := course
      exact ⟨verified, succeeds, alike.tryRemove⟩
  | @unrenamed received at_ =>
      obtain rfl := at_
      obtain ⟨verified, removed, alike⟩ := course
      refine ⟨.unplaced received removed, ?_⟩
      simp only [downloadModel, verified, Bool.false_and, Bool.false_eq_true,
        if_false, if_true]
      exact ⟨alike, trivial⟩
  | @renamed received at_ =>
      obtain rfl := at_
      obtain ⟨verified, removed, alike⟩ := course
      have placed := alike.remove.write.trans
        renamed_alike
      by_cases named : remoteFilename libraries model.downloadUrl =
          "weights.bin"
      · simp only [if_pos named]
        exact ⟨received, .kept, verified, placed⟩
      · simp only [if_neg named]
        exact ⟨named, received, verified, placed⟩
  | @unlinked succeeds at_ =>
      obtain rfl := at_
      obtain ⟨named, content, verified, alike⟩ := course
      refine ⟨named, content, verified, ?_⟩
      cases succeeds with
      | false => exact .inl alike
      | true =>
          rw [place_removed named]
          exact .inr alike.remove
  | linked at_ =>
      obtain rfl := at_
      obtain ⟨named, content, verified, alike⟩ := course
      obtain ⟨legacy, linked⟩ := tryLink_place named alike
      exact ⟨content, legacy, verified, linked⟩
  | unmarked at_ =>
      obtain rfl := at_
      obtain ⟨content, legacy, verified, alike⟩ := course
      refine ⟨.unmarked content legacy none, ?_⟩
      simp only [downloadModel, verified, Bool.false_and, Bool.false_eq_true,
        if_false, if_true]
      exact ⟨alike, trivial⟩
  | @torn kept at_ part =>
      obtain rfl := at_
      obtain ⟨content, legacy, verified, alike⟩ := course
      refine ⟨.unmarked content legacy (some kept.toList.length), ?_⟩
      simp only [downloadModel, verified, Bool.false_and, Bool.false_eq_true,
        if_false, if_true, ← List.prefix_iff_eq_take.mp part,
        String.ofList_toList]
      exact ⟨alike.write, trivial⟩
  | marked at_ =>
      obtain rfl := at_
      obtain ⟨content, legacy, verified, alike⟩ := course
      refine ⟨false, .complete content legacy, ?_⟩
      simp only [downloadModel, verified, Bool.false_and, Bool.false_eq_true,
        if_false, if_true]
      exact ⟨alike.write, trivial⟩

theorem course_reachable
    (reached : (downloading libraries model dir).Reachable final) :
    Course libraries model dir final := by
  obtain ⟨history, run⟩ := reached
  induction run with
  | start => rfl
  | next run taken course => exact course_step course (stepFetch_progress taken)

def FetchPhase.ended : FetchPhase → Bool
  | .failed _ => true
  | .succeeded => true
  | _ => false

/-- A run ends with these files, in success or not. -/
def Ends (libraries : Libraries) (model : CatalogModel) (dir : ModelDirectory)
    (outcome : ModelDirectory × Bool) : Prop :=
  ∃ final, (downloading libraries model dir).Reachable final ∧
    final.phase.ended = true ∧ Alike final.dir outcome.1 ∧
    (final.phase = .succeeded ↔ outcome.2 = true)

/-- A run that ends has an outcome of `downloadModel`. -/
theorem reachable_downloadModel
    (reached : (downloading libraries model dir).Reachable final)
    (ended : final.phase.ended = true) :
    ∃ reads fetch,
      Alike final.dir (downloadModel libraries model dir reads fetch).1 ∧
      (final.phase = .succeeded ↔
        (downloadModel libraries model dir reads fetch).2 = true) := by
  have course := course_reachable reached
  obtain ⟨left, phase⟩ := final
  cases phase with
  | succeeded =>
      obtain ⟨reads, fetch, alike, succeeds⟩ := course
      exact ⟨reads, fetch, alike, iff_of_true rfl succeeds⟩
  | failed verified =>
      cases verified with
      | true =>
          obtain ⟨fetch, alike, fails⟩ := course
          exact ⟨false, fetch, alike, iff_of_false nofun (by simp [fails])⟩
      | false =>
          obtain ⟨part, alike⟩ := course
          exact ⟨false, .stopped part, alike, iff_of_false nofun nofun⟩
  | _ => cases ended

theorem reachable_step (event : FileCall)
    (reached : (downloading libraries model dir).Reachable before)
    (taken : stepFetch libraries model before event = some after) :
    (downloading libraries model dir).Reachable after := by
  obtain ⟨history, run⟩ := reached
  exact ⟨_, run.next taken⟩

section Outcomes

variable {reads : Bool} {content : String}

section Arrives

variable (libraries)

theorem reachable_preparing
    (unsettled : (reads && alreadyVerified dir.entries model) = false) :
    (downloading libraries model dir).Reachable ⟨dir, .preparing⟩ := by
  apply reachable_step (.check reads) ⟨[], .start⟩
  simp [stepFetch, unsettled, downloading]

theorem reachable_requesting
    (unsettled : (reads && alreadyVerified dir.entries model) = false) :
    (downloading libraries model dir).Reachable ⟨dir.stop
      (remoteFilename libraries model.downloadUrl) .removed, .requesting⟩ := by
  have preparing := reachable_preparing libraries unsettled
  have clearing := reachable_step (.prepare true) preparing rfl
  exact reachable_step (.remove true) clearing rfl

theorem reachable_streaming
    (unsettled : (reads && alreadyVerified dir.entries model) = false)
    (content : String) :
    ∃ current, (downloading libraries model dir).Reachable
        ⟨current, .streaming content⟩ ∧
      Alike current (dir.stop (remoteFilename libraries model.downloadUrl)
        (.left content)) := by
  have requesting := reachable_requesting libraries unsettled
  have creating := reachable_step (.respond true) requesting rfl
  have streaming := reachable_step (.create true) creating rfl
  have whole : content.toList <+: ("" ++ content).toList := by simp
  have arrived := reachable_step (.chunk content content) streaming
    (if_pos whole)
  rw [String.empty_append] at arrived
  have cleared : Alike ((dir.stop _ .removed).stop
      (remoteFilename libraries model.downloadUrl) (.left ""))
      (dir.stop (remoteFilename libraries model.downloadUrl) (.left "")) :=
    stop_stop
  have written : Alike ((dir.stop _ (.left "")).stop
      (remoteFilename libraries model.downloadUrl) (.left content))
      (dir.stop (remoteFilename libraries model.downloadUrl)
        (.left content)) := stop_stop
  exact ⟨_, arrived, cleared.write.trans written⟩

theorem reachable_comparing
    (unsettled : (reads && alreadyVerified dir.entries model) = false)
    (content : String) :
    ∃ current, (downloading libraries model dir).Reachable
      ⟨current, .comparing content⟩ := by
  obtain ⟨current, streaming, -⟩ :=
    reachable_streaming libraries unsettled content
  exact ⟨_, reachable_step (.flush true) streaming rfl⟩

end Arrives

theorem reachable_moving
    (unsettled : (reads && alreadyVerified dir.entries model) = false)
    (verified : Verified libraries model.sha256 content) (removed : Bool) :
    ∃ current, (downloading libraries model dir).Reachable
        ⟨current, .moving content⟩ ∧
      Alike current (tryRemove (dir.stop
        (remoteFilename libraries model.downloadUrl) (.left content))
        (remoteFilename libraries model.downloadUrl) removed) := by
  obtain ⟨current, comparing⟩ :=
    reachable_comparing libraries unsettled content
  have removing : (downloading libraries model dir).Reachable
      ⟨current, .removing content⟩ := by
    apply reachable_step .compare comparing
    simp [stepFetch, verified]
  have alike : Alike current _ := (course_reachable removing).2
  exact ⟨_, reachable_step (.remove removed) removing rfl, alike.tryRemove⟩

theorem reachable_marking
    (unsettled : (reads && alreadyVerified dir.entries model) = false)
    (verified : Verified libraries model.sha256 content) (legacy : Legacy) :
    ∃ current, (downloading libraries model dir).Reachable
        ⟨current, .marking⟩ ∧
      Alike current (dir.place (remoteFilename libraries model.downloadUrl)
        content legacy) := by
  obtain ⟨current, moving, alike⟩ := reachable_moving unsettled verified true
  have renamed := reachable_step (.rename true) moving rfl
  have placed := alike.remove.write.trans renamed_alike
  by_cases named : remoteFilename libraries model.downloadUrl = "weights.bin"
  · rw [if_pos named] at renamed
    rw [place_legacy named]
    exact ⟨_, renamed, placed⟩
  · rw [if_neg named] at renamed
    cases legacy with
    | kept =>
        have linking := reachable_step (.remove false) renamed rfl
        exact ⟨_, reachable_step (.link none) linking rfl, placed⟩
    | removed =>
        have linking := reachable_step (.remove true) renamed rfl
        rw [place_removed named]
        exact ⟨_, reachable_step (.link none) linking rfl, placed.remove⟩
    | linked leads =>
        have linking := reachable_step (.remove true) renamed rfl
        rw [place_linked named, place_removed named]
        exact ⟨_, reachable_step (.link (some leads)) linking rfl,
          placed.remove.link⟩

private theorem ends_stopped
    (unsettled : (reads && alreadyVerified dir.entries model) = false)
    (part : Partial) :
    Ends libraries model dir
      (dir.stop (remoteFilename libraries model.downloadUrl) part, false) := by
  cases part with
  | kept =>
      have preparing := reachable_preparing libraries unsettled
      exact ⟨_, reachable_step (.prepare false) preparing rfl, rfl,
        fun _ => rfl, iff_of_false nofun nofun⟩
  | removed =>
      have requesting := reachable_requesting libraries unsettled
      exact ⟨_, reachable_step (.respond false) requesting rfl, rfl,
        fun _ => rfl, iff_of_false nofun nofun⟩
  | left content =>
      obtain ⟨current, streaming, alike⟩ :=
        reachable_streaming libraries unsettled content
      have discarding := reachable_step .interrupt streaming rfl
      exact ⟨_, reachable_step (.remove false) discarding rfl, rfl, alike,
        iff_of_false nofun nofun⟩

theorem ends_discarded
    (unsettled : (reads && alreadyVerified dir.entries model) = false)
    (wrong : ¬ Verified libraries model.sha256 content) :
    Ends libraries model dir
      (dir.stop (remoteFilename libraries model.downloadUrl) .removed,
        false) := by
  obtain ⟨current, comparing⟩ :=
    reachable_comparing libraries unsettled content
  have alike : Alike current _ := course_reachable comparing
  have discarding : (downloading libraries model dir).Reachable
      ⟨current, .discarding⟩ := by
    apply reachable_step .compare comparing
    simp [stepFetch, wrong]
  have cleared : Alike ((dir.stop _ (.left content)).stop
      (remoteFilename libraries model.downloadUrl) .removed)
      (dir.stop (remoteFilename libraries model.downloadUrl) .removed) :=
    stop_stop
  exact ⟨_, reachable_step (.remove true) discarding rfl, rfl,
    alike.remove.trans cleared, iff_of_false nofun nofun⟩

/-- Each outcome of `downloadModel` is the outcome of a run. -/
theorem downloadModel_reachable (reads : Bool) (fetch : Fetch) :
    Ends libraries model dir
      (downloadModel libraries model dir reads fetch) := by
  unfold downloadModel
  cases settled : reads && alreadyVerified dir.entries model with
  | true =>
      refine ⟨⟨dir, .succeeded⟩, ?_, rfl, fun _ => rfl, iff_of_true rfl rfl⟩
      apply reachable_step (.check reads) ⟨[], .start⟩
      simp [stepFetch, settled, downloading]
  | false =>
      cases fetch with
      | stopped part => exact ends_stopped settled part
      | unplaced content removed =>
          simp only [Bool.false_eq_true, if_false]
          split
          · next verified =>
              obtain ⟨current, moving, alike⟩ :=
                reachable_moving settled verified removed
              exact ⟨_, reachable_step (.rename false) moving rfl, rfl, alike,
                iff_of_false nofun nofun⟩
          · next wrong => exact ends_discarded settled wrong
      | unmarked content legacy torn =>
          simp only [Bool.false_eq_true, if_false]
          split
          · next verified =>
              obtain ⟨current, marking, alike⟩ :=
                reachable_marking settled verified legacy
              cases torn with
              | none =>
                  exact ⟨_, reachable_step (.mark .unopened) marking rfl, rfl,
                    alike, iff_of_false nofun nofun⟩
              | some length =>
                  refine ⟨_, reachable_step (.mark (.torn _)) marking
                    (if_pos ?_), rfl, alike.write, iff_of_false nofun nofun⟩
                  rw [String.toList_ofList]
                  exact List.take_prefix _ _
          · next wrong => exact ends_discarded settled wrong
      | complete content legacy =>
          simp only [Bool.false_eq_true, if_false]
          split
          · next verified =>
              obtain ⟨current, marking, alike⟩ :=
                reachable_marking settled verified legacy
              exact ⟨_, reachable_step (.mark .whole) marking rfl, rfl,
                alike.write, iff_of_true rfl rfl⟩
          · next wrong => exact ends_discarded settled wrong

end Outcomes

end JwSwarm.LinuxNode
