import JwSwarm.LinuxNode.Models

namespace JwSwarm.LinuxNode

open Data Proto

/-! Which bytes the backend loads after a download that succeeded: the download
verifies one file, and the backend looks for any. -/

variable {libraries : Libraries} {model : CatalogModel} {dir : Directory}
variable {listing : List String} {sha256 name content : String}

private theorem follow_none {lookup : String → Option FileEntry} {links : ℕ}
    (absent : lookup name = none) : follow lookup links name = .nothing := by
  unfold follow
  rw [absent]

private theorem follow_file {lookup : String → Option FileEntry} {links : ℕ}
    (file : lookup name = some (.file content)) :
    follow lookup links name = .file content := by
  unfold follow
  rw [file]

theorem find_eq_file :
    dir.find name = .file content ↔ dir.read name = some content := by
  unfold Directory.read
  cases dir.find name with
  | nothing => simp
  | folder => simp
  | file other => simp

private theorem present_of_read (found : dir.read name = some content) :
    dir.present name = true := by
  unfold Directory.present
  rw [find_eq_file.mpr found]
  rfl

private theorem read_of_file (file : dir.lookup name = some (.file content)) :
    dir.read name = some content :=
  find_eq_file.mp (follow_file file)

theorem mem_keys_of_read (found : dir.read name = some content) :
    name ∈ dir.keys := by
  rw [← AList.mem_keys]
  by_contra absent
  have nothing : dir.find name = .nothing :=
    follow_none (AList.lookup_eq_none.mpr absent)
  rw [find_eq_file.mpr found] at nothing
  cases nothing

theorem mem_readable :
    (name ∈ dir.keys.filter fun name => (dir.read name).isSome) ↔
      ∃ content, dir.read name = some content := by
  rw [List.mem_filter, Option.isSome_iff_exists]
  exact ⟨And.right, fun ⟨_, found⟩ => ⟨mem_keys_of_read found, _, found⟩⟩

section Candidates

variable (dir)

/-- No readable name ends in `.gguf`. -/
def Plain : Prop :=
  ∀ name content, dir.read name = some content → isGguf name = false

variable {dir}

theorem any_isGguf :
    (dir.keys.filter fun name => (dir.read name).isSome).any isGguf = true ↔
      ¬ Plain dir := by
  simp only [List.any_eq_true, mem_readable, Plain, not_forall,
    Bool.not_eq_false]
  constructor
  · rintro ⟨name, ⟨content, found⟩, gguf⟩
    exact ⟨name, content, found, gguf⟩
  · rintro ⟨name, content, found, gguf⟩
    exact ⟨name, ⟨content, found⟩, gguf⟩

theorem mem_artifactNames_of_gguf (gguf : ¬ Plain dir) :
    name ∈ artifactNames dir ↔
      (∃ content, dir.read name = some content) ∧ isGguf name = true := by
  unfold artifactNames
  simp only
  rw [if_pos (any_isGguf.mpr gguf), List.mem_filter, mem_readable]

theorem Plain.artifactNames_legacy (plain : Plain dir)
    (legacy : dir.present "weights.bin" = true) :
    artifactNames dir = ["weights.bin"] := by
  unfold artifactNames
  simp only
  rw [if_neg fun gguf => any_isGguf.mp gguf plain, if_pos legacy]

theorem Plain.mem_artifactNames (plain : Plain dir)
    (absent : dir.present "weights.bin" = false) :
    name ∈ artifactNames dir ↔
      (∃ content, dir.read name = some content) ∧ name ≠ "sha256" := by
  unfold artifactNames
  simp only
  rw [if_neg fun gguf => any_isGguf.mp gguf plain, if_neg (by simp [absent]),
    List.mem_filter, mem_readable, decide_eq_true_iff]

theorem not_isGguf_marker : isGguf "sha256" = false := by
  decide +kernel

theorem not_isGguf_legacy : isGguf "weights.bin" = false := by
  decide +kernel

end Candidates

private theorem exists_listing (member : name ∈ artifactNames dir) :
    ∃ listing, listing.Perm dir.keys ∧ modelFile dir listing = some name := by
  have readable (listing : List String) (perm : listing.Perm dir.keys)
      (key : String) (inside : key ∈ listing.filter
        fun name => (dir.read name).isSome) :
      ∃ content, dir.read key = some content :=
    mem_readable.mp ((perm.filter _).mem_iff.mp inside)
  have first (found : ∃ content, dir.read name = some content) :
      (name :: dir.keys.erase name).Perm dir.keys := by
    obtain ⟨content, found⟩ := found
    exact (List.perm_cons_erase (mem_keys_of_read found)).symm
  have none (plain : Plain dir) (listing : List String)
      (perm : listing.Perm dir.keys) :
      (listing.filter fun name => (dir.read name).isSome).find? isGguf =
        none := by
    rw [List.find?_eq_none]
    intro key inside gguf
    obtain ⟨content, found⟩ := readable listing perm key inside
    rw [plain key content found] at gguf
    cases gguf
  by_cases plain : Plain dir
  · cases legacy : dir.present "weights.bin" with
    | true =>
        rw [plain.artifactNames_legacy legacy] at member
        refine ⟨dir.keys, List.Perm.refl _, ?_⟩
        simp only [modelFile, none plain _ (List.Perm.refl _), legacy, if_true,
          List.mem_singleton.mp member]
    | false =>
        obtain ⟨found, other⟩ := (plain.mem_artifactNames legacy).mp member
        refine ⟨_, first found, ?_⟩
        simp only [modelFile, none plain _ (first found), legacy,
          Bool.false_eq_true, if_false]
        simp [Option.isSome_iff_exists.mpr found, other]
  · obtain ⟨found, gguf⟩ := (mem_artifactNames_of_gguf plain).mp member
    refine ⟨_, first found, ?_⟩
    simp [modelFile, Option.isSome_iff_exists.mpr found, gguf]

private theorem isVerified_iff :
    isVerified libraries dir sha256 = true ↔
      HoldsVerified libraries dir sha256 := by
  refine ⟨HoldsVerified.of_isVerified, fun holds => ?_⟩
  rw [isVerified, Bool.and_eq_true, List.all_eq_true]
  constructor
  · obtain ⟨name, _, chosen, -⟩ := holds dir.keys (List.Perm.refl _)
    have occupied := List.ne_nil_of_mem
      (modelFile_mem_artifactNames (List.Perm.refl _) chosen)
    simpa using occupied
  · intro name member
    obtain ⟨listing, perm, chosen⟩ := exists_listing member
    obtain ⟨other, content, same, found, digest⟩ := holds listing perm
    obtain rfl := Option.some.inj (chosen.symm.trans same)
    rw [found]
    exact decide_eq_true digest

theorem isVerified_iff_candidates :
    isVerified libraries dir sha256 = true ↔
      (∃ name, name ∈ artifactNames dir) ∧
        ∀ name ∈ artifactNames dir, ∃ content,
          dir.read name = some content ∧
            Verified libraries sha256 content := by
  rw [isVerified, Bool.and_eq_true, List.all_eq_true]
  apply and_congr
  · rw [Bool.not_eq_true', List.isEmpty_eq_false_iff_exists_mem]
  · simp only [Option.any_eq_true, decide_eq_true_iff]

def written (filename : String) : List String :=
  [filename, partName filename, "weights.bin", "sha256"]

/-- The directory's entries with the artifact, the link and the marker in their
places. -/
def settled (dir : ModelDirectory) (filename content marker : String)
    (legacy : Legacy) (name : String) : Option FileEntry :=
  if name = "sha256" then some (.file marker)
  else if name = filename then some (.file content)
  else if name = partName filename then none
  else if name = "weights.bin" then
    legacy.leaves filename (dir.entries.lookup "weights.bin")
  else dir.entries.lookup name

/-- What a name of an earlier version holds then: a link may lead to the new
artifact. -/
def leftover (dir : ModelDirectory) (filename content marker : String)
    (legacy : Legacy) (name : String) : Option String :=
  match follow (settled dir filename content marker legacy) 40 name with
  | .file bytes => some bytes
  | _ => none

/-- The files of earlier versions that a download does not touch, and their
bytes after it. -/
def leftovers (dir : ModelDirectory) (filename content marker : String)
    (legacy : Legacy) : List (String × String) :=
  let others := dir.entries.keys.filter fun name =>
    !(written filename).contains name
  others.filterMap fun name =>
    (leftover dir filename content marker legacy name).map (name, ·)

/-- What the backend loads where there is no `.gguf` file: what `weights.bin`
leads to, else any file. -/
def FallbackVerified (libraries : Libraries) (sha256 filename : String)
    (others : List (String × String)) : Target → Prop
  | .file bytes => Verified libraries sha256 bytes
  | .folder => False
  | .nothing =>
      -- The marker takes the place of an artifact of its name.
      (filename = "sha256" → others ≠ []) ∧
        ∀ file ∈ others, Verified libraries sha256 file.2

/-- The files that the backend prefers have the hash. -/
def PrefersVerified (libraries : Libraries) (sha256 : String)
    (dir : ModelDirectory) (filename content : String) (legacy : Legacy) :
    Prop :=
  let others := leftovers dir filename content sha256 legacy
  (∀ file ∈ others, isGguf file.1 = true →
    Verified libraries sha256 file.2) ∧
  ((∃ file ∈ others, isGguf file.1 = true) ∨ isGguf filename = true ∨
    filename = "weights.bin" ∨
    FallbackVerified libraries sha256 filename others
      (follow (settled dir filename content sha256 legacy) 40 "weights.bin"))

/-- A response that arrives whole is verified, and so are the files that the
backend prefers to it. -/
def Fetch.ServesVerified (libraries : Libraries) (sha256 : String)
    (dir : ModelDirectory) (filename : String) : Fetch → Prop
  | .complete content legacy =>
      Verified libraries sha256 content →
        PrefersVerified libraries sha256 dir filename content legacy
  | _ => True

/-- No file that the backend may prefer is unverified: neither what the marker
already vouches for, nor what a download of this entry leaves untouched. -/
def ServesVerified (libraries : Libraries) (model : CatalogModel)
    (dir : ModelDirectory) (reads : Bool) (fetch : Fetch) : Prop :=
  if (reads && alreadyVerified dir.entries model) = true then
    isVerified libraries dir.entries model.sha256 = true
  else fetch.ServesVerified libraries model.sha256 dir
    (remoteFilename libraries model.downloadUrl)

instance (libraries : Libraries) (sha256 filename : String)
    (others : List (String × String)) : (target : Target) →
      Decidable (FallbackVerified libraries sha256 filename others target)
  | .file bytes => inferInstanceAs (Decidable (Verified _ _ bytes))
  | .folder => inferInstanceAs (Decidable False)
  | .nothing => inferInstanceAs (Decidable (_ ∧ _))

instance (libraries : Libraries) (sha256 : String) (dir : ModelDirectory)
    (filename content : String) (legacy : Legacy) : Decidable
      (PrefersVerified libraries sha256 dir filename content legacy) :=
  instDecidableAnd

instance (libraries : Libraries) (sha256 : String) (dir : ModelDirectory)
    (filename : String) : (fetch : Fetch) →
      Decidable (fetch.ServesVerified libraries sha256 dir filename)
  | .complete content legacy => inferInstanceAs (Decidable
      (Verified _ _ content → PrefersVerified _ _ _ _ content legacy))
  | .stopped _ => inferInstanceAs (Decidable True)
  | .unplaced _ _ => inferInstanceAs (Decidable True)
  | .unmarked _ _ _ => inferInstanceAs (Decidable True)

instance (libraries : Libraries) (model : CatalogModel) (dir : ModelDirectory)
    (reads : Bool) (fetch : Fetch) :
    Decidable (ServesVerified libraries model dir reads fetch) :=
  inferInstanceAs (Decidable
    (if (reads && alreadyVerified dir.entries model) = true then
      isVerified libraries dir.entries model.sha256 = true
    else fetch.ServesVerified libraries model.sha256 dir
      (remoteFilename libraries model.downloadUrl)))

section Settled

variable {old : ModelDirectory} {filename marker : String} {legacy : Legacy}

def renewed (old : ModelDirectory) (filename content marker : String)
    (legacy : Legacy) : Directory :=
  ((old.place filename content legacy).marked marker).entries

theorem lookup_renewed :
    (renewed old filename content marker legacy).lookup name =
      settled old filename content marker legacy name := by
  unfold renewed settled ModelDirectory.marked
  rw [ModelDirectory.lookup_write, ModelDirectory.lookup_place]

theorem find_renewed : (renewed old filename content marker legacy).find name =
    follow (settled old filename content marker legacy) 40 name := by
  exact congrArg (follow · 40 name) (funext fun _ => lookup_renewed)

theorem read_renewed (distinct : filename ≠ "sha256") :
    (renewed old filename content marker legacy).read filename =
      some content := by
  apply read_of_file
  rw [lookup_renewed, settled, if_neg distinct, if_pos rfl]

theorem read_leftover : (renewed old filename content marker legacy).read name =
    leftover old filename content marker legacy name := by
  rw [Directory.read, find_renewed]
  rfl

theorem mem_leftovers {bytes : String} :
    (name, bytes) ∈ leftovers old filename content marker legacy ↔
      name ∉ written filename ∧
        (renewed old filename content marker legacy).read name = some bytes := by
  simp only [leftovers, List.mem_filterMap, List.mem_filter,
    Option.map_eq_some_iff]
  constructor
  · rintro ⟨key, ⟨-, other⟩, value, found, same⟩
    obtain ⟨rfl, rfl⟩ := Prod.mk.inj same
    exact ⟨by simpa using other, read_leftover.trans found⟩
  · rintro ⟨other, found⟩
    refine ⟨name, ⟨?_, by simpa using other⟩, bytes,
      read_leftover.symm.trans found, rfl⟩
    have inside := mem_keys_of_read found
    simp only [written, List.mem_cons, List.not_mem_nil, or_false, not_or]
      at other
    obtain ⟨artifact, part, weights, isMarker⟩ := other
    rw [← AList.mem_keys, ← AList.lookup_isSome, lookup_renewed, settled,
      if_neg isMarker, if_neg artifact, if_neg part, if_neg weights] at inside
    rwa [← AList.mem_keys, ← AList.lookup_isSome]

theorem read_cases {bytes : String}
    (found : (renewed old filename content marker legacy).read name =
      some bytes) :
    (name, bytes) ∈ leftovers old filename content marker legacy ∨
      name = "sha256" ∨ (name = filename ∧ bytes = content) ∨
      name = "weights.bin" := by
  by_cases other : name ∉ written filename
  · exact .inl (mem_leftovers.mpr ⟨other, found⟩)
  · by_cases isMarker : name = "sha256"
    · exact .inr (.inl isMarker)
    · by_cases artifact : name = filename
      · subst artifact
        exact .inr (.inr (.inl
          ⟨rfl, Option.some.inj (found.symm.trans (read_renewed isMarker))⟩))
      · refine .inr (.inr (.inr ?_))
        by_contra weights
        obtain rfl : name = partName filename := by
          simpa [written, artifact, weights, isMarker] using other
        have inside := mem_keys_of_read found
        rw [← AList.mem_keys, ← AList.lookup_isSome, lookup_renewed, settled,
          if_neg isMarker, if_neg artifact, if_pos rfl] at inside
        cases inside

theorem leftover_ne_marker {file : String × String}
    (member : file ∈ leftovers old filename content marker legacy) :
    file.1 ≠ "sha256" := by
  intro same
  apply (mem_leftovers.mp member).1
  simp [same, written]

theorem plain_renewed_iff :
    Plain (renewed old filename content marker legacy) ↔
      (∀ file ∈ leftovers old filename content marker legacy,
        isGguf file.1 = false) ∧ isGguf filename = false := by
  constructor
  · intro plain
    refine ⟨fun file member => ?_, ?_⟩
    · exact plain file.1 file.2 (mem_leftovers.mp member).2
    · by_cases isMarker : filename = "sha256"
      · rw [isMarker]
        exact not_isGguf_marker
      · exact plain filename content (read_renewed isMarker)
  · rintro ⟨none, artifact⟩ name bytes found
    rcases read_cases found with member | rfl | ⟨rfl, -⟩ | rfl
    · exact none _ member
    · exact not_isGguf_marker
    · exact artifact
    · exact not_isGguf_legacy

private theorem isVerified_of_gguf
    (gguf : ¬ Plain (renewed old filename content marker legacy))
    (verified : Verified libraries marker content) :
    isVerified libraries (renewed old filename content marker legacy) marker =
        true ↔
      ∀ file ∈ leftovers old filename content marker legacy,
        isGguf file.1 = true → Verified libraries marker file.2 := by
  rw [isVerified_iff_candidates]
  simp only [mem_artifactNames_of_gguf gguf]
  constructor
  · rintro ⟨-, each⟩ file member is
    have found := (mem_leftovers.mp member).2
    obtain ⟨bytes, same, verified⟩ := each file.1 ⟨⟨_, found⟩, is⟩
    obtain rfl := Option.some.inj (found.symm.trans same)
    exact verified
  · intro each
    constructor
    · simp only [Plain, not_forall, Bool.not_eq_false] at gguf
      obtain ⟨name, bytes, found, is⟩ := gguf
      exact ⟨name, ⟨bytes, found⟩, is⟩
    · rintro name ⟨⟨bytes, found⟩, is⟩
      refine ⟨bytes, found, ?_⟩
      rcases read_cases found with member | rfl | ⟨-, rfl⟩ | rfl
      · exact each _ member is
      · rw [not_isGguf_marker] at is
        cases is
      · exact verified
      · rw [not_isGguf_legacy] at is
        cases is

theorem isVerified_of_present
    (plain : Plain (renewed old filename content marker legacy))
    (present : (renewed old filename content marker legacy).present
      "weights.bin" = true) :
    isVerified libraries (renewed old filename content marker legacy) marker =
        true ↔
      ∃ bytes, (renewed old filename content marker legacy).read
        "weights.bin" = some bytes ∧ Verified libraries marker bytes := by
  rw [isVerified_iff_candidates, plain.artifactNames_legacy present]
  simp only [List.mem_singleton, exists_eq, true_and, forall_eq]

private theorem isVerified_of_absent
    (plain : Plain (renewed old filename content marker legacy))
    (absent : (renewed old filename content marker legacy).present
      "weights.bin" = false)
    (verified : Verified libraries marker content) :
    isVerified libraries (renewed old filename content marker legacy) marker =
        true ↔
      (filename = "sha256" →
        leftovers old filename content marker legacy ≠ []) ∧
      ∀ file ∈ leftovers old filename content marker legacy,
        Verified libraries marker file.2 := by
  have weights {bytes : String} : (renewed old filename content marker
      legacy).read "weights.bin" ≠ some bytes := by
    intro found
    rw [present_of_read found] at absent
    cases absent
  rw [isVerified_iff_candidates]
  simp only [plain.mem_artifactNames absent]
  constructor
  · rintro ⟨⟨name, ⟨bytes, found⟩, other⟩, each⟩
    constructor
    · rintro rfl
      rcases read_cases found with member | same | ⟨same, -⟩ | rfl
      · exact List.ne_nil_of_mem member
      · exact absurd same other
      · exact absurd same other
      · exact absurd found weights
    · intro file member
      have found := (mem_leftovers.mp member).2
      obtain ⟨bytes, same, verified⟩ :=
        each file.1 ⟨⟨_, found⟩, leftover_ne_marker member⟩
      obtain rfl := Option.some.inj (found.symm.trans same)
      exact verified
  · rintro ⟨occupied, each⟩
    constructor
    · by_cases isMarker : filename = "sha256"
      · obtain ⟨file, member⟩ :=
          List.exists_mem_of_ne_nil _ (occupied isMarker)
        exact ⟨file.1, ⟨_, (mem_leftovers.mp member).2⟩,
          leftover_ne_marker member⟩
      · exact ⟨filename, ⟨_, read_renewed isMarker⟩, isMarker⟩
    · rintro name ⟨⟨bytes, found⟩, other⟩
      refine ⟨bytes, found, ?_⟩
      rcases read_cases found with member | same | ⟨-, rfl⟩ | rfl
      · exact each _ member
      · exact absurd same other
      · exact verified
      · exact absurd found weights

private theorem fallback_of_target {target : Target}
    (plain : Plain (renewed old filename content marker legacy))
    (found : (renewed old filename content marker legacy).find "weights.bin" =
      target)
    (verified : Verified libraries marker content) :
    isVerified libraries (renewed old filename content marker legacy) marker =
        true ↔
      FallbackVerified libraries marker filename
        (leftovers old filename content marker legacy) target := by
  cases target with
  | nothing =>
      exact isVerified_of_absent plain (by simp [Directory.present, found])
        verified
  | folder =>
      rw [isVerified_of_present plain (by simp [Directory.present, found])]
      simp [Directory.read, found, FallbackVerified]
  | file bytes =>
      rw [isVerified_of_present plain (by simp [Directory.present, found])]
      simp [Directory.read, found, FallbackVerified]

private theorem isVerified_renewed_iff
    (verified : Verified libraries marker content) :
    isVerified libraries (renewed old filename content marker legacy) marker =
        true ↔
      PrefersVerified libraries marker old filename content legacy := by
  unfold PrefersVerified
  by_cases plain : Plain (renewed old filename content marker legacy)
  · obtain ⟨none, artifact⟩ := plain_renewed_iff.mp plain
    have fallback := fallback_of_target plain rfl verified
    rw [find_renewed] at fallback
    rw [fallback]
    constructor
    · intro holds
      refine ⟨fun file member is => ?_, .inr (.inr (.inr holds))⟩
      rw [none file member] at is
      cases is
    · rintro ⟨-, ⟨file, member, is⟩ | is | rfl | holds⟩
      · rw [none file member] at is
        cases is
      · rw [artifact] at is
        cases is
      · have placed : (renewed old "weights.bin" content marker legacy).find
            "weights.bin" = .file content :=
          find_eq_file.mpr (read_renewed (by decide))
        rw [← find_renewed, placed]
        exact verified
      · exact holds
  · rw [isVerified_of_gguf plain verified]
    refine (and_iff_left ?_).symm
    by_contra unserved
    simp only [not_or, not_exists, not_and, Bool.not_eq_true] at unserved
    exact plain (plain_renewed_iff.mpr ⟨unserved.1, unserved.2.1⟩)

end Settled

variable {old : ModelDirectory} {reads : Bool} {fetch : Fetch}

private theorem fetch_of_succeeds
    (unsettled : (reads && alreadyVerified old.entries model) = false)
    (succeeds : (downloadModel libraries model old reads fetch).2 = true) :
    ∃ content legacy, fetch = .complete content legacy ∧
      Verified libraries model.sha256 content ∧
      (downloadModel libraries model old reads fetch).1.entries =
        renewed old (remoteFilename libraries model.downloadUrl) content
          model.sha256 legacy := by
  unfold downloadModel at succeeds ⊢
  simp only [unsettled, Bool.false_eq_true, if_false] at succeeds ⊢
  cases fetch with
  | stopped part => cases succeeds
  | unplaced content removed =>
      simp only at succeeds
      split at succeeds <;> cases succeeds
  | unmarked content legacy torn =>
      simp only at succeeds
      split at succeeds <;> cases succeeds
  | complete content legacy =>
      simp only at succeeds ⊢
      split at succeeds
      · next verified =>
          rw [if_pos verified]
          exact ⟨content, legacy, rfl, verified, rfl⟩
      · cases succeeds

theorem isVerified_downloadModel_iff
    (succeeds : (downloadModel libraries model old reads fetch).2 = true) :
    isVerified libraries (downloadModel libraries model old reads
        fetch).1.entries model.sha256 = true ↔
      ServesVerified libraries model old reads fetch := by
  unfold ServesVerified
  cases settled : reads && alreadyVerified old.entries model with
  | true => simp only [downloadModel, settled, if_true]
  | false =>
      obtain ⟨content, legacy, rfl, verified, left⟩ :=
        fetch_of_succeeds settled succeeds
      rw [left, isVerified_renewed_iff verified, if_neg Bool.false_ne_true]
      exact ⟨fun holds _ => holds, fun holds => holds verified⟩

/-- After a download that succeeded the backend loads verified bytes, in every
order of the listing, exactly where no unverified file is preferred. -/
theorem downloadModel_serves_iff
    (succeeds : (downloadModel libraries model old reads fetch).2 = true) :
    HoldsVerified libraries
        (downloadModel libraries model old reads fetch).1.entries
        model.sha256 ↔
      ServesVerified libraries model old reads fetch :=
  isVerified_iff.symm.trans (isVerified_downloadModel_iff succeeds)

def twoVersions : Libraries where
  digest content := if content = "second" then "2b" else "1a"
  lastSegment url :=
    some (if url = "https://models.example/v2.gguf" then "v2.gguf"
      else "v1.gguf")

def secondVersion : CatalogModel where
  id := "m"
  displayName := "m"
  downloadUrl := "https://models.example/v2.gguf"
  sha256 := "2b"
  sizeBytes := 6
  contextLength := 4096
  paramsBillions := 1
  backend := .llamaCpp

def secondFetch : Fetch :=
  .complete "second" (.linked .artifact)

theorem downloadModel_serves_fresh :
    HoldsVerified twoVersions
        (downloadModel twoVersions secondVersion .empty true
          secondFetch).1.entries "2b" ↔
      ServesVerified twoVersions secondVersion .empty true secondFetch :=
  downloadModel_serves_iff (by decide +kernel)

def firstVersion : ModelDirectory :=
  ModelDirectory.empty.write "v1.gguf" "first"

/-- The second version is downloaded and verified, and the first is loaded. -/
theorem older_version_served :
    (downloadModel twoVersions secondVersion firstVersion true
        secondFetch).2 = true ∧
      ¬ HoldsVerified twoVersions
        (downloadModel twoVersions secondVersion firstVersion true
          secondFetch).1.entries "2b" := by
  refine ⟨by decide +kernel, fun holds => ?_⟩
  obtain ⟨name, content, chosen, found, digest⟩ := holds
    ["v1.gguf", "v2.gguf", "weights.bin", "sha256"] (by decide +kernel)
  have first : modelFile (downloadModel twoVersions secondVersion firstVersion
      true secondFetch).1.entries
      ["v1.gguf", "v2.gguf", "weights.bin", "sha256"] = some "v1.gguf" := by
    decide +kernel
  obtain rfl := Option.some.inj (first.symm.trans chosen)
  have bytes : (downloadModel twoVersions secondVersion firstVersion true
      secondFetch).1.entries.read "v1.gguf" = some "first" := by
    decide +kernel
  obtain rfl := Option.some.inj (bytes.symm.trans found)
  exact absurd digest (by decide +kernel)

end JwSwarm.LinuxNode
