import JwSwarm.LinuxNode.DownloadSteps

namespace JwSwarm.LinuxNode

open Data Proto Transition Machine
open FleetManager.Enrollment (isWhiteSpace trim)

/-! What a marker promises at every point where a download may fail or be
killed. -/

def isArtifact (name : String) : Bool :=
  name ≠ "sha256" && !".partial".toList.isSuffixOf name.toList

def vouches (libraries : Libraries) (dir : Directory) (sha256 name : String) :
    Bool :=
  isArtifact name &&
    match dir.lookup name with
    | some (.file content) =>
        (libraries.digest content).toLower == sha256.toLower
    | _ => false

/-- What a marker says, a complete file confirms. -/
def Truthful (libraries : Libraries) (dir : Directory) : Prop :=
  ∀ text, dir.read "sha256" = some text →
    ∃ name, vouches libraries dir (trim text) name = true

/-- What a marker says, a complete file under another name confirms. -/
def Spares (libraries : Libraries) (dir : Directory) (name : String) : Prop :=
  ∀ text, dir.read "sha256" = some text →
    ∃ other, other ≠ name ∧ vouches libraries dir (trim text) other = true

/-- A step leaves some file that the marker speaks of. The steps that could take
the last one are the removals, the rename and the write of the marker. -/
def Harmless (libraries : Libraries) (model : CatalogModel)
    (state : FetchState) (event : FileCall) : Prop :=
  let filename := remoteFilename libraries model.downloadUrl
  let dir := state.dir.entries
  match state.phase, event with
  | .removing _, .remove true =>
      filename = "sha256" ∨ Spares libraries dir filename
  | .moving received, .rename true =>
      if filename = "sha256" then
        ∃ name, vouches libraries dir (trim received) name = true
      else Spares libraries dir filename ∨
        isArtifact filename = true ∧
          ∀ text, dir.read "sha256" = some text →
            (libraries.digest received).toLower = (trim text).toLower
  | .unlinking, .remove true => Spares libraries dir "weights.bin"
  | .marking, .mark (.torn kept) =>
      ∃ name, vouches libraries dir (trim kept) name = true
  | .marking, .mark .whole =>
      isArtifact filename = true ∨
        ∃ name, vouches libraries dir (trim model.sha256) name = true
  | _, _ => True

def isHexDigit (char : Char) : Bool :=
  (0x30 ≤ char.toNat && char.toNat ≤ 0x39) ||
    (0x61 ≤ char.toNat && char.toNat ≤ 0x66)

def Hexadecimal (libraries : Libraries) : Prop :=
  ∀ content, (libraries.digest content).toList.all isHexDigit = true

private theorem trim_eq_self {text : String}
    (solid : ∀ char ∈ text.toList, isWhiteSpace char = false) :
    trim text = text := by
  have kept (chars : List Char)
      (solid : ∀ char ∈ chars, isWhiteSpace char = false) :
      chars.dropWhile isWhiteSpace = chars := by
    cases chars with
    | nil => rfl
    | cons char chars =>
        rw [List.dropWhile_cons_of_neg]
        rw [solid char List.mem_cons_self]
        exact Bool.false_ne_true
  rw [trim, kept _ solid, kept, List.reverse_reverse, String.ofList_toList]
  intro char member
  exact solid char (List.mem_reverse.mp member)

theorem toNat_toLower (char : Char) :
    char.toLower.toNat =
      if 0x41 ≤ char.toNat ∧ char.toNat ≤ 0x5A then char.toNat + 0x20
      else char.toNat := by
  unfold Char.toLower
  split
  · next upper =>
      have least : 0x41 ≤ char.val.toNat := upper.1
      have most : char.val.toNat ≤ 0x5A := upper.2
      rw [if_pos ⟨least, most⟩]
      change (char.val + 0x20).toNat = char.val.toNat + 0x20
      rw [UInt32.toNat_add]
      exact Nat.mod_eq_of_lt (by change char.val.toNat + 0x20 < _; omega)
  · next other =>
      rw [if_neg]
      exact other

private theorem isWhiteSpace_eq_false_of_toLower {char digit : Char}
    (hex : isHexDigit digit = true) (same : char.toLower = digit.toLower) :
    isWhiteSpace char = false := by
  have codes := congrArg Char.toNat same
  rw [toNat_toLower, toNat_toLower] at codes
  simp only [isHexDigit, Bool.or_eq_true, Bool.and_eq_true,
    decide_eq_true_eq] at hex
  have letter : 0x30 ≤ char.toNat ∧ char.toNat ≤ 0x66 := by
    split_ifs at codes <;> omega
  obtain ⟨least, most⟩ := letter
  simp only [isWhiteSpace, Bool.or_eq_false_iff, Bool.and_eq_false_iff,
    decide_eq_false_iff_not, beq_eq_false_iff_ne]
  omega

private theorem trim_hash {libraries : Libraries}
    (hexadecimal : Hexadecimal libraries) {content sha256 : String}
    (same : (libraries.digest content).toLower = sha256.toLower) :
    trim sha256 = sha256 := by
  apply trim_eq_self
  intro char member
  have letters : ((libraries.digest content).map Char.toLower).toList =
      (sha256.map Char.toLower).toList := congrArg String.toList same
  rw [String.toList_map, String.toList_map] at letters
  have inside := List.mem_map_of_mem (f := Char.toLower) member
  rw [← letters] at inside
  obtain ⟨digit, among, lower⟩ := List.mem_map.mp inside
  exact isWhiteSpace_eq_false_of_toLower
    (List.all_eq_true.mp (hexadecimal content) digit among) lower.symm

variable {libraries : Libraries} {model : CatalogModel} {dir : ModelDirectory}
variable {history : History FetchState FileCall}
variable {before after final : FetchState} {event : FileCall}

private def Placed (libraries : Libraries) (model : CatalogModel)
    (state : FetchState) : Prop :=
  let filename := remoteFilename libraries model.downloadUrl
  let kept := ∃ content,
    state.dir.entries.lookup filename = some (.file content) ∧
      (libraries.digest content).toLower = model.sha256.toLower
  match state.phase with
  | .removing received | .moving received =>
      (libraries.digest received).toLower = model.sha256.toLower
  | .unlinking | .linking => filename ≠ "weights.bin" ∧ kept
  | .marking => kept
  | _ => True

private theorem placed_of_unverified
    (unverified : before.phase.unverified = true) :
    Placed libraries model before := by
  obtain ⟨dir, phase⟩ := before
  cases phase with
  | removing received => cases unverified
  | moving received => cases unverified
  | unlinking => cases unverified
  | linking => cases unverified
  | marking => cases unverified
  | _ => trivial

private theorem placed_step (placed : Placed libraries model before)
    (progress : Progress libraries model before event after) :
    Placed libraries model after := by
  obtain ⟨dir, phase⟩ := before
  cases progress with
  | settled at_ settled => trivial
  | aside part unverified next started whole => exact placed_of_unverified next
  | verified at_ verified => exact verified
  | removed at_ =>
      obtain rfl := at_
      exact placed
  | unrenamed at_ => trivial
  | @renamed received at_ =>
      obtain rfl := at_
      have kept : ∃ content, ((dir.remove
          (partName (remoteFilename libraries model.downloadUrl))).write
            (remoteFilename libraries model.downloadUrl)
              received).entries.lookup
            (remoteFilename libraries model.downloadUrl) =
              some (.file content) ∧
          (libraries.digest content).toLower = model.sha256.toLower :=
        ⟨received, ModelDirectory.lookup_write_self, placed⟩
      by_cases legacy :
          remoteFilename libraries model.downloadUrl = "weights.bin"
      · unfold Placed
        simp only [if_pos legacy]
        exact kept
      · unfold Placed
        simp only [if_neg legacy]
        exact ⟨legacy, kept⟩
  | unlinked at_ =>
      obtain rfl := at_
      obtain ⟨named, content, found, same⟩ := placed
      exact ⟨named, content, (lookup_tryRemove_ne named).trans found, same⟩
  | @linked made at_ =>
      obtain rfl := at_
      obtain ⟨named, content, found, same⟩ := placed
      cases made with
      | some leads =>
          exact ⟨content, (ModelDirectory.lookup_link_ne named).trans found,
            same⟩
      | none => exact ⟨content, found, same⟩
  | unmarked at_ => trivial
  | torn at_ part => trivial
  | marked at_ => trivial

private theorem not_isArtifact_partName (filename : String) :
    isArtifact (partName filename) = false := by
  have suffix : ".partial".toList.isSuffixOf (partName filename).toList =
      true := by
    rw [List.isSuffixOf_iff_suffix, partName, String.toList_append]
    exact List.suffix_append _ _
  rw [isArtifact, suffix, Bool.not_true, Bool.and_false]

private theorem not_isArtifact_marker : isArtifact "sha256" = false := by
  decide

theorem ModelDirectory.read_marker (dir : ModelDirectory) :
    dir.entries.read "sha256" =
      match dir.entries.lookup "sha256" with
      | some (.file text) => some text
      | _ => none := by
  unfold Directory.read Directory.find follow
  cases found : dir.entries.lookup "sha256" with
  | none => rfl
  | some entry =>
      obtain ⟨text, rfl⟩ := dir.plain _ _ rfl found
      rfl

section Truth

variable {next : ModelDirectory} {name text sha256 content : String}

theorem read_marker_congr
    (same : next.entries.lookup "sha256" = dir.entries.lookup "sha256") :
    next.entries.read "sha256" = dir.entries.read "sha256" := by
  rw [next.read_marker, dir.read_marker, same]

theorem vouches_congr
    (same : isArtifact name = true →
      next.entries.lookup name = dir.entries.lookup name) :
    vouches libraries next.entries sha256 name =
      vouches libraries dir.entries sha256 name := by
  unfold vouches
  cases artifact : isArtifact name with
  | true => rw [same artifact]
  | false => rfl

private theorem isArtifact_of_vouches
    (vouched : vouches libraries dir.entries sha256 name = true) :
    isArtifact name = true :=
  ((Bool.and_eq_true _ _).mp vouched).1

private theorem ne_marker_of_isArtifact (artifact : isArtifact name = true) :
    name ≠ "sha256" := by
  rintro rfl
  rw [not_isArtifact_marker] at artifact
  cases artifact

theorem ne_partName_of_isArtifact {filename : String}
    (artifact : isArtifact name = true) : name ≠ partName filename := by
  rintro rfl
  rw [not_isArtifact_partName] at artifact
  cases artifact

private theorem truthful_congr
    (same : ∀ name, isArtifact name = true ∨ name = "sha256" →
      next.entries.lookup name = dir.entries.lookup name) :
    Truthful libraries next.entries ↔ Truthful libraries dir.entries := by
  unfold Truthful
  rw [read_marker_congr (same _ (.inr rfl))]
  have each (text name : String) :=
    @vouches_congr libraries dir next name (trim text)
      fun artifact => same name (.inl artifact)
  simp only [each]

theorem truthful_remove_iff (other : name ≠ "sha256") :
    Truthful libraries (dir.remove name).entries ↔
      Spares libraries dir.entries name := by
  have marker : (dir.remove name).entries.read "sha256" =
      dir.entries.read "sha256" :=
    read_marker_congr (ModelDirectory.lookup_remove_ne (Ne.symm other))
  have each (text file : String) :
      vouches libraries (dir.remove name).entries (trim text) file = true ↔
        file ≠ name ∧
          vouches libraries dir.entries (trim text) file = true := by
    by_cases same : file = name
    · subst same
      simp [vouches]
    · rw [vouches_congr fun _ => ModelDirectory.lookup_remove_ne same]
      simp [same]
  unfold Truthful Spares
  rw [marker]
  simp only [each]

private theorem truthful_remove_marker :
    Truthful libraries (dir.remove "sha256").entries := by
  intro text found
  rw [ModelDirectory.read_marker, ModelDirectory.lookup_remove_self] at found
  cases found

theorem truthful_write_marker :
    Truthful libraries (dir.write "sha256" text).entries ↔
      ∃ name, vouches libraries dir.entries (trim text) name = true := by
  have each (name : String) :
      vouches libraries (dir.write "sha256" text).entries (trim text) name =
        vouches libraries dir.entries (trim text) name :=
    vouches_congr fun artifact =>
      ModelDirectory.lookup_write_ne (ne_marker_of_isArtifact artifact)
  unfold Truthful
  rw [ModelDirectory.read_marker, ModelDirectory.lookup_write_self]
  simp [each]

theorem vouches_write (artifact : isArtifact name = true) :
    vouches libraries (dir.write name content).entries sha256 name = true ↔
      (libraries.digest content).toLower = sha256.toLower := by
  simp [vouches, artifact]

private theorem truthful_write_iff (other : name ≠ "sha256") :
    Truthful libraries (dir.write name content).entries ↔
      Spares libraries dir.entries name ∨
        isArtifact name = true ∧ ∀ text, dir.entries.read "sha256" = some text →
          (libraries.digest content).toLower = (trim text).toLower := by
  have marker : (dir.write name content).entries.read "sha256" =
      dir.entries.read "sha256" :=
    read_marker_congr (ModelDirectory.lookup_write_ne (Ne.symm other))
  have each (hash : String) :
      (∃ file, vouches libraries (dir.write name content).entries hash file =
          true) ↔
        (∃ file, file ≠ name ∧
          vouches libraries dir.entries hash file = true) ∨
        isArtifact name = true ∧
          (libraries.digest content).toLower = hash.toLower := by
    constructor
    · rintro ⟨file, vouched⟩
      by_cases same : file = name
      · subst same
        have artifact := isArtifact_of_vouches vouched
        exact .inr ⟨artifact, (vouches_write artifact).mp vouched⟩
      · rw [vouches_congr fun _ => ModelDirectory.lookup_write_ne same]
          at vouched
        exact .inl ⟨file, same, vouched⟩
    · rintro (⟨file, distinct, vouched⟩ | ⟨artifact, same⟩)
      · refine ⟨file, ?_⟩
        rwa [vouches_congr fun _ => ModelDirectory.lookup_write_ne distinct]
      · exact ⟨name, (vouches_write artifact).mpr same⟩
  unfold Truthful Spares
  rw [marker]
  cases dir.entries.read "sha256" with
  | none => simp
  | some text =>
      have only := each (trim text)
      simpa using only

private theorem spares_congr
    (same : ∀ name, isArtifact name = true ∨ name = "sha256" →
      next.entries.lookup name = dir.entries.lookup name) :
    Spares libraries next.entries name ↔ Spares libraries dir.entries name := by
  unfold Spares
  rw [read_marker_congr (same _ (.inr rfl))]
  have each (text file : String) :=
    @vouches_congr libraries dir next file (trim text)
      fun artifact => same file (.inl artifact)
  simp only [each]

theorem lookup_remove_part {filename : String}
    (kept : isArtifact name = true ∨ name = "sha256") :
    (dir.remove (partName filename)).entries.lookup name =
      dir.entries.lookup name := by
  apply ModelDirectory.lookup_remove_ne
  rcases kept with artifact | rfl
  · exact ne_partName_of_isArtifact artifact
  · exact (partName_ne_marker filename).symm

private theorem truthful_link {filename : String} (leads : LinkEnd) :
    Truthful libraries (dir.link (leads.entry filename)).entries ↔
      Truthful libraries dir.entries := by
  have marker : (dir.link (leads.entry filename)).entries.read "sha256" =
      dir.entries.read "sha256" :=
    read_marker_congr (ModelDirectory.lookup_link_ne (by decide))
  have each (hash file : String) :
      vouches libraries (dir.link (leads.entry filename)).entries hash file =
        vouches libraries dir.entries hash file := by
    unfold vouches
    rw [ModelDirectory.lookup_link]
    by_cases free : file = "weights.bin" ∧
        dir.entries.lookup "weights.bin" = none
    · rw [if_pos free, free.1, free.2]
      cases leads with
      | artifact => rfl
      | away found => rfl
    · rw [if_neg free]
  unfold Truthful
  rw [marker]
  simp only [each]

end Truth

private theorem harmless_of_unverified
    (unverified : before.phase.unverified = true) :
    Harmless libraries model before event := by
  obtain ⟨dir, phase⟩ := before
  cases phase with
  | removing received => cases unverified
  | moving received => cases unverified
  | unlinking => cases unverified
  | linking => cases unverified
  | marking => cases unverified
  | _ => trivial

private theorem truthful_step (hexadecimal : Hexadecimal libraries)
    (truthful : Truthful libraries before.dir.entries)
    (placed : Placed libraries model before)
    (progress : Progress libraries model before event after) :
    Truthful libraries after.dir.entries ↔
      Harmless libraries model before event := by
  obtain ⟨dir, phase⟩ := before
  cases progress with
  | settled at_ settled =>
      obtain rfl := at_
      exact iff_of_true truthful trivial
  | aside part unverified next started whole =>
      refine iff_of_true ?_ (harmless_of_unverified unverified)
      apply (truthful_congr _).mpr truthful
      intro name named
      apply lookup_stop_ne
      rcases named with artifact | rfl
      · exact ne_partName_of_isArtifact artifact
      · exact (partName_ne_marker _).symm
  | verified at_ verified =>
      obtain rfl := at_
      exact iff_of_true truthful trivial
  | @removed received succeeds at_ =>
      obtain rfl := at_
      cases succeeds with
      | false => exact iff_of_true truthful trivial
      | true =>
          by_cases marker :
              remoteFilename libraries model.downloadUrl = "sha256"
          · refine iff_of_true ?_ (.inl marker)
            simp only [tryRemove, if_true, marker]
            exact truthful_remove_marker
          · simp only [tryRemove, if_true, Harmless, marker, false_or]
            exact truthful_remove_iff marker
  | unrenamed at_ =>
      obtain rfl := at_
      exact iff_of_true truthful trivial
  | @renamed received at_ =>
      obtain rfl := at_
      by_cases marker : remoteFilename libraries model.downloadUrl = "sha256"
      · simp only [Harmless, marker, if_true]
        rw [truthful_write_marker]
        have each (name : String) :=
          @vouches_congr libraries dir (dir.remove (partName "sha256")) name
            (trim received) fun artifact => lookup_remove_part (.inl artifact)
        simp only [each]
      · simp only [Harmless, marker, if_false]
        rw [truthful_write_iff marker, spares_congr fun _ => lookup_remove_part,
          read_marker_congr (lookup_remove_part (.inr rfl))]
  | @unlinked succeeds at_ =>
      obtain rfl := at_
      cases succeeds with
      | false => exact iff_of_true truthful trivial
      | true => exact truthful_remove_iff (by decide)
  | @linked made at_ =>
      obtain rfl := at_
      cases made with
      | none => exact iff_of_true truthful trivial
      | some leads =>
          exact iff_of_true ((truthful_link leads).mpr truthful) trivial
  | unmarked at_ =>
      obtain rfl := at_
      exact iff_of_true truthful trivial
  | torn at_ part =>
      obtain rfl := at_
      exact truthful_write_marker
  | marked at_ =>
      obtain rfl := at_
      obtain ⟨content, found, same⟩ := placed
      refine truthful_write_marker.trans ⟨.inr, ?_⟩
      rintro (artifact | vouched)
      · refine ⟨remoteFilename libraries model.downloadUrl, ?_⟩
        rw [trim_hash hexadecimal same]
        simp [vouches, artifact, found, same]
      · exact vouched

/-- Before the bytes are verified, only the partial file has changed. -/
def Untouched (libraries : Libraries) (model : CatalogModel)
    (dir : ModelDirectory) (state : FetchState) : Prop :=
  state.phase.unverified = true → ∀ name,
    name ≠ partName (remoteFilename libraries model.downloadUrl) →
    state.dir.entries.lookup name = dir.entries.lookup name

private theorem unverified_of_progress
    (progress : Progress libraries model before event after)
    (unverified : after.phase.unverified = true) :
    before.phase.unverified = true ∧ ∀ name,
      name ≠ partName (remoteFilename libraries model.downloadUrl) →
      after.dir.entries.lookup name = before.dir.entries.lookup name := by
  cases progress with
  | settled at_ settled => cases unverified
  | aside part early next started whole =>
      exact ⟨early, fun _ distinct => lookup_stop_ne distinct⟩
  | verified at_ verified => cases unverified
  | removed at_ => cases unverified
  | unrenamed at_ => cases unverified
  | renamed at_ =>
      simp only at unverified
      split at unverified
      · cases unverified
      · cases unverified
  | unlinked at_ => cases unverified
  | linked at_ => cases unverified
  | unmarked at_ => cases unverified
  | torn at_ part => cases unverified
  | marked at_ => cases unverified

private theorem placed_run
    (run : (downloading libraries model dir).Run history final) :
    Placed libraries model final := by
  induction run with
  | start => trivial
  | next run taken placed =>
      exact placed_step placed (stepFetch_progress taken)

private theorem untouched_run
    (run : (downloading libraries model dir).Run history final) :
    Untouched libraries model dir final := by
  induction run with
  | start => exact fun _ _ _ => rfl
  | next run taken untouched =>
      intro unverified name other
      obtain ⟨early, kept⟩ :=
        unverified_of_progress (stepFetch_progress taken) unverified
      exact (kept name other).trans (untouched early name other)

/-- Wherever it fails or is killed, a download leaves a truthful marker, and its
bytes unverified the old files, exactly when all its steps are harmless. -/
theorem downloading_truthful_iff (hexadecimal : Hexadecimal libraries)
    (truthful : Truthful libraries dir.entries)
    (run : (downloading libraries model dir).Run history final) :
    (downloading libraries model dir).Along (fun _ state =>
        Truthful libraries state.dir.entries ∧
          Untouched libraries model dir state) history ↔
      Guarded (fun _ => Harmless libraries model) history := by
  refine Run.along_iff_guarded ?_ ?_ run
  · exact ⟨truthful, fun _ _ _ => rfl⟩
  · intro history before event after reached holds taken
    have untouched := untouched_run (reached.next taken)
    have step := truthful_step hexadecimal holds.1 (placed_run reached)
      (stepFetch_progress taken)
    exact (and_iff_left untouched).trans step

def versionDigests : Libraries where
  digest content := if content = "old" then "0a" else "0b"
  lastSegment _ := some "m.gguf"

private theorem versionDigests_hexadecimal : Hexadecimal versionDigests := by
  intro content
  simp only [versionDigests]
  split
  · decide
  · decide

def newVersion : CatalogModel where
  id := "m"
  displayName := "m"
  downloadUrl := "https://models.example/m.gguf"
  sha256 := "0b"
  sizeBytes := 3
  contextLength := 4096
  paramsBillions := 1
  backend := .llamaCpp

def oldDirectory : ModelDirectory :=
  (ModelDirectory.empty.write "m.gguf" "old").write "sha256" "0a"

private theorem oldDirectory_truthful :
    Truthful versionDigests oldDirectory.entries := by
  intro text found
  have marker : oldDirectory.entries.read "sha256" = some "0a" := by decide
  obtain rfl := Option.some.inj (marker.symm.trans found)
  exact ⟨"m.gguf", by decide +kernel⟩

private def verifiedEvents : List FileCall :=
  [.check true, .prepare true, .remove true, .respond true, .create true,
    .chunk "new" "new", .flush true, .compare]

theorem downloading_truthful_whole :
    ∃ history final,
      (downloading versionDigests newVersion oldDirectory).Run history final ∧
      final.phase = .succeeded ∧
      ((downloading versionDigests newVersion oldDirectory).Along
          (fun _ state => Truthful versionDigests state.dir.entries ∧
            Untouched versionDigests newVersion oldDirectory state) history ↔
        Guarded (fun _ => Harmless versionDigests newVersion) history) := by
  obtain ⟨history, final, run, observed⟩ :=
    (downloading versionDigests newVersion oldDirectory).exists_run_of_trace
      (verifiedEvents ++ [.remove true, .rename true, .remove true,
        .link (some .artifact), .mark .whole])
      (fun outcome => outcome.2.phase = .succeeded)
      (by decide +kernel)
  exact ⟨history, final, run, of_decide_eq_true observed,
    downloading_truthful_iff versionDigests_hexadecimal oldDirectory_truthful
      run⟩

private theorem mem_keys_of_vouches {dir : Directory} {sha256 name : String}
    (vouched : vouches libraries dir sha256 name = true) : name ∈ dir.keys := by
  rw [← AList.mem_keys, ← AList.lookup_isSome]
  unfold vouches at vouched
  cases found : dir.lookup name with
  | none => simp [found] at vouched
  | some entry => rfl

/-- Killed between the removal of the old file and the rename, a download leaves
the old marker and no file for it. -/
theorem killed_before_rename :
    ∃ history final,
      (downloading versionDigests newVersion oldDirectory).Run history final ∧
      ¬ Truthful versionDigests final.dir.entries := by
  obtain ⟨history, final, run, observed⟩ :=
    (downloading versionDigests newVersion oldDirectory).exists_run_of_trace
      (verifiedEvents ++ [.remove true])
      (fun outcome =>
        outcome.2.dir.entries.read "sha256" = some "0a" ∧
        ∀ name ∈ outcome.2.dir.entries.keys,
          vouches versionDigests outcome.2.dir.entries "0a" name = false)
      (by decide +kernel)
  obtain ⟨marker, none⟩ := of_decide_eq_true observed
  refine ⟨history, final, run, fun truthful => ?_⟩
  obtain ⟨name, vouched⟩ := truthful "0a" marker
  have denied := none name (mem_keys_of_vouches vouched)
  have same : trim "0a" = "0a" := by decide
  rw [same, denied] at vouched
  cases vouched

end JwSwarm.LinuxNode
