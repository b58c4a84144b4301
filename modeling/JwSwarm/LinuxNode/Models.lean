import Mathlib.Data.List.AList
import JwSwarm.FleetManager.Enrollment
import JwSwarm.Proto.Message

namespace JwSwarm.LinuxNode

open Data Proto
open FleetManager.Enrollment (trim)

/-! The model directory and its downloads. -/

/-- The libraries that a download relies on: the SHA-256 digest in hexadecimal,
and the last path segment of a URL that parses and has one. -/
structure Libraries where
  digest : String → String
  lastSegment : String → Option String

inductive Target where
  | nothing
  | folder
  | file (content : String)
  deriving DecidableEq

/-- A link names another entry of the directory. `away` is a link that leads out
of it, or a subdirectory. -/
inductive FileEntry where
  | file (content : String)
  | link (target : String)
  | away (found : Target)
  deriving DecidableEq

def follow (lookup : String → Option FileEntry) : ℕ → String → Target
  | links, name =>
      match lookup name, links with
      | none, _ => .nothing
      | some (.file content), _ => .file content
      | some (.away found), _ => found
      | some (.link _), 0 => .nothing
      | some (.link target), links + 1 => follow lookup links target

abbrev Directory := AList fun _ : String => FileEntry

namespace Directory

/-- The system follows at most 40 links. -/
def find (dir : Directory) (name : String) : Target :=
  follow dir.lookup 40 name

def read (dir : Directory) (name : String) : Option String :=
  match dir.find name with
  | .file content => some content
  | _ => none

def present (dir : Directory) (name : String) : Bool :=
  dir.find name ≠ .nothing

end Directory

def partName (filename : String) : String := filename ++ ".partial"

/-- The marker and the partial files, which downloads write in place. -/
def isScratch (name : String) : Bool :=
  name == "sha256" || ".partial".toList.isSuffixOf name.toList

/-- A directory in which no write goes through a link. -/
structure ModelDirectory where
  entries : Directory
  plain : ∀ name entry, isScratch name = true →
    entries.lookup name = some entry → ∃ content, entry = .file content

namespace ModelDirectory

def empty : ModelDirectory where
  entries := ∅
  plain _ _ _ found := by cases found

def remove (dir : ModelDirectory) (name : String) : ModelDirectory where
  entries := dir.entries.erase name
  plain other entry scratch found := by
    by_cases same : other = name
    · rw [same, AList.lookup_erase] at found
      cases found
    · rw [AList.lookup_erase_ne same] at found
      exact dir.plain other entry scratch found

def write (dir : ModelDirectory) (name content : String) : ModelDirectory where
  entries := dir.entries.insert name (.file content)
  plain other entry scratch found := by
    by_cases same : other = name
    · rw [same, AList.lookup_insert] at found
      exact ⟨content, (Option.some.inj found).symm⟩
    · rw [AList.lookup_insert_ne same] at found
      exact dir.plain other entry scratch found

/-- `symlink` at `weights.bin`; it does not replace an entry. -/
def link (dir : ModelDirectory) (made : FileEntry) : ModelDirectory where
  entries :=
    if dir.entries.lookup "weights.bin" = none then
      dir.entries.insert "weights.bin" made
    else dir.entries
  plain other entry scratch found := by
    have distinct : other ≠ "weights.bin" := by
      rintro rfl
      exact absurd scratch (by decide)
    split at found
    · rw [AList.lookup_insert_ne distinct] at found
      exact dir.plain other entry scratch found
    · exact dir.plain other entry scratch found

variable {dir : ModelDirectory} {name other content : String}
variable {made : FileEntry}

theorem lookup_remove_ne (distinct : other ≠ name) :
    (dir.remove name).entries.lookup other = dir.entries.lookup other :=
  AList.lookup_erase_ne distinct

@[simp] theorem lookup_remove_self :
    (dir.remove name).entries.lookup name = none :=
  AList.lookup_erase _ _

theorem lookup_remove :
    (dir.remove name).entries.lookup other =
      if other = name then none else dir.entries.lookup other := by
  split
  · next same => rw [same, lookup_remove_self]
  · next distinct => exact lookup_remove_ne distinct

theorem lookup_write_ne (distinct : other ≠ name) :
    (dir.write name content).entries.lookup other = dir.entries.lookup other :=
  AList.lookup_insert_ne distinct

@[simp] theorem lookup_write_self :
    (dir.write name content).entries.lookup name = some (.file content) :=
  AList.lookup_insert _

theorem lookup_write :
    (dir.write name content).entries.lookup other =
      if other = name then some (.file content)
      else dir.entries.lookup other := by
  split
  · next same => rw [same, lookup_write_self]
  · next distinct => exact lookup_write_ne distinct

theorem lookup_link :
    (dir.link made).entries.lookup other =
      if other = "weights.bin" ∧ dir.entries.lookup "weights.bin" = none then
        some made
      else dir.entries.lookup other := by
  unfold link
  by_cases free : dir.entries.lookup "weights.bin" = none
  · simp only [free, if_true, and_true]
    split
    · next same => rw [same, AList.lookup_insert]
    · next distinct => exact AList.lookup_insert_ne distinct
  · simp only [free, if_false, and_false]

theorem lookup_link_ne (distinct : other ≠ "weights.bin") :
    (dir.link made).entries.lookup other = dir.entries.lookup other := by
  rw [lookup_link, if_neg fun same => distinct same.1]

end ModelDirectory

/-- `Path::extension` of a file name. -/
def extension (name : String) : Option String :=
  let suffix := name.toList.reverse.takeWhile (· ≠ '.')
  let stem := name.toList.reverse.dropWhile (· ≠ '.')
  if stem.length ≤ 1 then none else some (String.ofList suffix.reverse)

def isGguf (name : String) : Bool :=
  (extension name).any fun ext => ext.toLower == "gguf"

/-- `listing` is the order in which the directory lists its names. -/
def modelFile (dir : Directory) (listing : List String) : Option String :=
  let entries := listing.filter fun name => (dir.read name).isSome
  match entries.find? isGguf with
  | some gguf => some gguf
  | none =>
      if dir.present "weights.bin" then some "weights.bin"
      else entries.find? (· ≠ "sha256")

/-- A folder's own size is below a megabyte. -/
def fileSizeMb : Target → Option ℕ
  | .nothing => none
  | .folder => some 1
  | .file content =>
      some (max ((content.utf8ByteSize + 1024 * 1024 - 1) / (1024 * 1024)) 1)

def remoteFilename (libraries : Libraries) (url : String) : String :=
  match libraries.lastSegment url with
  | some name => if name.isEmpty then "weights.bin" else name
  | none => "weights.bin"

def alreadyVerified (dir : Directory) (model : CatalogModel) : Bool :=
  (dir.read "sha256").map trim == some model.sha256

def Verified (libraries : Libraries) (sha256 content : String) : Prop :=
  (libraries.digest content).toLower = sha256.toLower

instance (libraries : Libraries) (sha256 content : String) :
    Decidable (Verified libraries sha256 content) :=
  inferInstanceAs (Decidable (_ = _))

/-- Where the legacy link leads. Its text is the artifact's path, which leads
away where the data directory is relative to the working directory. -/
inductive LinkEnd where
  | artifact
  | away (found : Target)

def LinkEnd.entry (filename : String) : LinkEnd → FileEntry
  | .artifact => .link filename
  | .away found => .away found

/-- What becomes of `weights.bin` beside an artifact of another name. Neither
result is looked at: an entry that could not be removed stays, and then no link
is made. -/
inductive Legacy where
  | kept
  | removed
  | linked (leads : LinkEnd)

def Legacy.leaves (filename : String) (old : Option FileEntry) :
    Legacy → Option FileEntry
  | .kept => old
  | .removed => none
  | .linked leads => some (leads.entry filename)

/-- What becomes of the partial file of a download that stops. -/
inductive Partial where
  | kept
  | removed
  | left (content : String)

/-- How a download goes that the marker does not settle: it stops, or its bytes
arrive and then the rename or the write of the marker fails, or nothing does. A
marker may be torn. -/
inductive Fetch where
  | stopped (part : Partial)
  | unplaced (content : String) (removed : Bool)
  | unmarked (content : String) (legacy : Legacy) (torn : Option ℕ)
  | complete (content : String) (legacy : Legacy)

namespace ModelDirectory

/-- The downloaded file takes its place, and `weights.bin` is renewed. -/
def place (dir : ModelDirectory) (filename content : String)
    (legacy : Legacy) : ModelDirectory :=
  let placed := (dir.remove (partName filename)).write filename content
  if filename = "weights.bin" then placed
  else match legacy with
    | .kept => placed
    | .removed => placed.remove "weights.bin"
    | .linked leads =>
        (placed.remove "weights.bin").link (leads.entry filename)

def marked (dir : ModelDirectory) (sha256 : String) : ModelDirectory :=
  dir.write "sha256" sha256

def stop (dir : ModelDirectory) (filename : String) : Partial → ModelDirectory
  | .kept => dir
  | .removed => dir.remove (partName filename)
  | .left content => dir.write (partName filename) content

end ModelDirectory

private theorem suffix_partName (filename : String) :
    ".partial".toList <:+ (partName filename).toList := by
  rw [partName, String.toList_append]
  exact List.suffix_append _ _

theorem partName_ne_marker (filename : String) :
    partName filename ≠ "sha256" := by
  intro same
  have suffix := suffix_partName filename
  rw [same] at suffix
  exact absurd suffix (by decide)

theorem partName_ne_legacy (filename : String) :
    partName filename ≠ "weights.bin" := by
  intro same
  have suffix := suffix_partName filename
  rw [same] at suffix
  exact absurd suffix (by decide)

namespace ModelDirectory

theorem lookup_place {dir : ModelDirectory} {filename content name : String}
    {legacy : Legacy} :
    (dir.place filename content legacy).entries.lookup name =
      if name = filename then some (.file content)
      else if name = partName filename then none
      else if name = "weights.bin" then
        legacy.leaves filename (dir.entries.lookup "weights.bin")
      else dir.entries.lookup name := by
  unfold place
  simp only
  by_cases named : filename = "weights.bin"
  · rw [if_pos named, lookup_write, lookup_remove]
    split_ifs with artifact part weights
    · rfl
    · rfl
    · exact absurd (weights.trans named.symm) artifact
    · rfl
  · rw [if_neg named]
    cases legacy with
    | kept =>
        simp only [lookup_write, lookup_remove, Legacy.leaves]
        split_ifs with _ _ weights
        · rfl
        · rfl
        · rw [weights]
        · rfl
    | removed =>
        simp only [lookup_write, lookup_remove, Legacy.leaves]
        split_ifs with weights artifact
        · exact absurd (artifact.symm.trans weights) named
        · rfl
        · rfl
        · rfl
        · rfl
        · rfl
    | linked leads =>
        simp only [lookup_link, lookup_write, lookup_remove, Legacy.leaves,
          if_true, and_true]
        split_ifs with weights artifact
        · exact absurd (artifact.symm.trans weights) named
        · next same =>
            exact absurd (same.symm.trans weights) (partName_ne_legacy _)
        · rfl
        · rfl
        · rfl
        · rfl

end ModelDirectory

/-- A `remove_file` whose result is not looked at. -/
def tryRemove (dir : ModelDirectory) (name : String) (succeeds : Bool) :
    ModelDirectory :=
  if succeeds then dir.remove name else dir

/-- `download_model`: what it leaves in the directory, and whether it succeeds.
`reads` says whether the marker can be read. -/
def downloadModel (libraries : Libraries) (model : CatalogModel)
    (dir : ModelDirectory) (reads : Bool) (fetch : Fetch) :
    ModelDirectory × Bool :=
  let filename := remoteFilename libraries model.downloadUrl
  let placed (content : String) (left : ModelDirectory × Bool) :=
    if Verified libraries model.sha256 content then left
    else (dir.stop filename .removed, false)
  if reads && alreadyVerified dir.entries model then (dir, true)
  else match fetch with
    | .stopped part => (dir.stop filename part, false)
    | .unplaced content removed =>
        placed content
          (tryRemove (dir.stop filename (.left content)) filename removed,
            false)
    | .unmarked content legacy torn =>
        let placing := dir.place filename content legacy
        placed content (match torn with
          | none => placing
          | some length =>
              placing.marked (String.ofList (model.sha256.toList.take length)),
          false)
    | .complete content legacy =>
        placed content
          ((dir.place filename content legacy).marked model.sha256, true)

/-- The artifact that the backend finds in the directory has the hash. -/
def HoldsVerified (libraries : Libraries) (dir : Directory) (sha256 : String) :
    Prop :=
  ∀ listing, listing.Perm dir.keys →
    ∃ name content, modelFile dir listing = some name ∧
      dir.read name = some content ∧ Verified libraries sha256 content

/-- The names that some listing makes the backend choose. -/
def artifactNames (dir : Directory) : List String :=
  let files := dir.keys.filter fun name => (dir.read name).isSome
  if files.any isGguf then files.filter isGguf
  else if dir.present "weights.bin" then ["weights.bin"]
  else files.filter (· ≠ "sha256")

def isVerified (libraries : Libraries) (dir : Directory) (sha256 : String) :
    Bool :=
  !(artifactNames dir).isEmpty && (artifactNames dir).all fun name =>
    (dir.read name).any fun content => Verified libraries sha256 content

variable {libraries : Libraries} {dir : Directory}
variable {listing : List String} {sha256 name : String}

theorem modelFile_mem_artifactNames (perm : listing.Perm dir.keys)
    {name : String} (chosen : modelFile dir listing = some name) :
    name ∈ artifactNames dir := by
  have files : (listing.filter fun name => (dir.read name).isSome).Perm
      (dir.keys.filter fun name => (dir.read name).isSome) := perm.filter _
  unfold modelFile at chosen
  unfold artifactNames
  simp only at chosen ⊢
  cases found : (listing.filter fun name => (dir.read name).isSome).find?
      isGguf with
  | some gguf =>
      rw [found] at chosen
      obtain rfl := Option.some.inj chosen
      have inside := files.mem_iff.mp (List.mem_of_find?_eq_some found)
      have gguf := List.find?_some found
      rw [if_pos (List.any_eq_true.mpr ⟨_, inside, gguf⟩)]
      exact List.mem_filter.mpr ⟨inside, gguf⟩
  | none =>
      rw [found] at chosen
      have plain : ¬ (dir.keys.filter fun name => (dir.read name).isSome).any
          isGguf = true := by
        rw [List.any_eq_true]
        rintro ⟨other, inside, gguf⟩
        exact List.find?_eq_none.mp found other (files.mem_iff.mpr inside) gguf
      rw [if_neg plain]
      simp only at chosen
      split at chosen
      · next legacy =>
          rw [if_pos legacy]
          exact List.mem_singleton.mpr (Option.some.inj chosen).symm
      · next absent =>
          rw [if_neg absent]
          have inside := List.mem_of_find?_eq_some chosen
          have other := List.find?_some chosen
          exact List.mem_filter.mpr ⟨files.mem_iff.mp inside, other⟩

private theorem isSome_modelFile (perm : listing.Perm dir.keys)
    (occupied : artifactNames dir ≠ []) :
    (modelFile dir listing).isSome = true := by
  have files : (listing.filter fun name => (dir.read name).isSome).Perm
      (dir.keys.filter fun name => (dir.read name).isSome) := perm.filter _
  unfold modelFile
  simp only
  cases found : (listing.filter fun name => (dir.read name).isSome).find?
      isGguf with
  | some gguf => rfl
  | none =>
      simp only
      split
      · rfl
      · next absent =>
          -- Some artifact is left, and it can only be one of the other files.
          obtain ⟨name, member⟩ := List.exists_mem_of_ne_nil _ occupied
          unfold artifactNames at member
          simp only at member
          split at member
          · obtain ⟨inside, gguf⟩ := List.mem_filter.mp member
            exact absurd gguf
              (List.find?_eq_none.mp found name (files.mem_iff.mpr inside))
          · obtain ⟨inside, other⟩ := List.mem_filter.mp member
            exact List.find?_isSome.mpr
              ⟨name, files.mem_iff.mpr inside, other⟩

theorem HoldsVerified.of_isVerified
    (verified : isVerified libraries dir sha256 = true) :
    HoldsVerified libraries dir sha256 := by
  obtain ⟨occupied, each⟩ := (Bool.and_eq_true _ _).mp verified
  intro listing perm
  have occupied : artifactNames dir ≠ [] := by
    simpa using occupied
  obtain ⟨name, chosen⟩ :=
    Option.isSome_iff_exists.mp (isSome_modelFile perm occupied)
  obtain ⟨content, found, same⟩ := (Option.any_eq_true _ _).mp
    (List.all_eq_true.mp each name (modelFile_mem_artifactNames perm chosen))
  exact ⟨name, content, chosen, found, of_decide_eq_true same⟩

end JwSwarm.LinuxNode
