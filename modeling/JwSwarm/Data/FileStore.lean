import Mathlib.Logic.Function.Basic
import JwSwarm.Data.Utf8

namespace JwSwarm.Data

/-! Programs that read and write whole files and stop at their first failure.
What they have written by then stays. -/

abbrev FileStore (Path : Type) := Path → Option (List UInt8)

/-- A file that cannot be opened is left alone; one that is opened is emptied
first, and writing it may be cut short. -/
inductive WriteEnd where
  | refused
  | cut (written : ℕ)
  | complete
  deriving DecidableEq

def WriteEnd.leaves (ending : WriteEnd) (old : Option (List UInt8))
    (content : List UInt8) : Option (List UInt8) :=
  match ending with
  | .refused => old
  | .cut written => some (content.take written)
  | .complete => some content

abbrev FileProgram (Path Failure : Type) :=
  ExceptT Failure (StateM (FileStore Path))

namespace FileProgram

variable {Path Failure Result Next : Type}

def outcome (program : FileProgram Path Failure Result)
    (files : FileStore Path) : Except Failure Result :=
  (program.run.run files).1

def after (program : FileProgram Path Failure Result)
    (files : FileStore Path) : FileStore Path :=
  (program.run.run files).2

def check (holds : Bool) (failure : Failure) : FileProgram Path Failure Unit :=
  if holds then pure () else throw failure

def put [DecidableEq Path] (path : Path) (content : Option (List UInt8)) :
    FileProgram Path Failure Unit :=
  modify fun files => Function.update files path content

def write [DecidableEq Path] (path : Path) (content : List UInt8)
    (ending : WriteEnd) (failure : Failure) :
    FileProgram Path Failure Unit := do
  let files ← get
  put path (ending.leaves (files path) content)
  check (ending = .complete) failure

/-- Reading a whole file as text; `reads` says whether the system lets it. -/
def readToString (path : Path) (reads : Bool) (failure : Failure) :
    FileProgram Path Failure String := do
  check reads failure
  let files ← get
  match (files path).bind Utf8.decodeStrict with
  | some text => pure (String.ofList text)
  | none => throw failure

variable {program : FileProgram Path Failure Result}
variable {next : Result → FileProgram Path Failure Next}
variable {files : FileStore Path} {path other : Path} {failure : Failure}
variable {result : Result} {holds reads : Bool} {content : List UInt8}
variable {ending : WriteEnd}

@[simp] theorem outcome_pure :
    (pure result : FileProgram Path Failure Result).outcome files =
      .ok result := rfl

@[simp] theorem after_pure :
    (pure result : FileProgram Path Failure Result).after files = files := rfl

@[simp] theorem outcome_throw :
    (throw failure : FileProgram Path Failure Result).outcome files =
      .error failure := rfl

@[simp] theorem after_throw :
    (throw failure : FileProgram Path Failure Result).after files = files := rfl

theorem outcome_bind_ok (ended : program.outcome files = .ok result) :
    (program >>= next).outcome files =
      (next result).outcome (program.after files) := by
  simp only [outcome, after, ExceptT.run_bind, StateT.run_bind] at ended ⊢
  simp [bind, ended]

theorem after_bind_ok (ended : program.outcome files = .ok result) :
    (program >>= next).after files =
      (next result).after (program.after files) := by
  simp only [outcome, after, ExceptT.run_bind, StateT.run_bind] at ended ⊢
  simp [bind, ended]

theorem outcome_bind_error (ended : program.outcome files = .error failure) :
    (program >>= next).outcome files = .error failure := by
  simp only [outcome, ExceptT.run_bind, StateT.run_bind] at ended ⊢
  simp only [bind, ended]
  rfl

theorem after_bind_error (ended : program.outcome files = .error failure) :
    (program >>= next).after files = program.after files := by
  simp only [outcome, after, ExceptT.run_bind, StateT.run_bind] at ended ⊢
  simp only [bind, ended]
  rfl

theorem outcome_bind_eq_ok_iff {last : Next} :
    (program >>= next).outcome files = .ok last ↔
      ∃ result, program.outcome files = .ok result ∧
        (next result).outcome (program.after files) = .ok last := by
  cases ended : program.outcome files with
  | ok result => simp [outcome_bind_ok ended]
  | error failure => simp [outcome_bind_error ended]

theorem outcome_seq_eq_ok_iff {program : FileProgram Path Failure Unit}
    {next : Unit → FileProgram Path Failure Next} {last : Next} :
    (program >>= next).outcome files = .ok last ↔
      program.outcome files = .ok () ∧
        (next ()).outcome (program.after files) = .ok last := by
  rw [outcome_bind_eq_ok_iff]
  exact Unique.exists_iff

theorem outcome_check_eq_ok_iff :
    (check holds failure : FileProgram Path Failure Unit).outcome files =
      .ok () ↔ holds = true := by
  cases holds with
  | false => simp [check]
  | true => simp [check]

@[simp] theorem after_check :
    (check holds failure : FileProgram Path Failure Unit).after files =
      files := by
  cases holds with
  | false => rfl
  | true => rfl

theorem outcome_write_complete [DecidableEq Path] :
    (write path content .complete failure).outcome files = .ok () := rfl

theorem after_write [DecidableEq Path] :
    (write path content ending failure).after files =
      Function.update files path (ending.leaves (files path) content) := by
  change (check (ending = .complete) failure :
    FileProgram Path Failure Unit).after _ = _
  exact after_check

theorem outcome_readToString_eq_ok_iff {text : String} :
    (readToString path reads failure).outcome files = .ok text ↔
      reads = true ∧
        (files path).bind Utf8.decodeStrict = some text.toList := by
  cases reads with
  | false => simp [readToString, check]
  | true =>
      change (match (files path).bind Utf8.decodeStrict with
        | some text => pure (String.ofList text)
        | none => throw failure :
          FileProgram Path Failure String).outcome files = _ ↔ _
      cases (files path).bind Utf8.decodeStrict with
      | none => simp
      | some decoded =>
          constructor
          · intro returned
            obtain rfl := Except.ok.inj returned
            simp
          · rintro ⟨-, same⟩
            obtain rfl := Option.some.inj same
            simp

/-- Whatever the files hold and however the program ends, it leaves what the
path holds. -/
def Keeps (path : Path) (program : FileProgram Path Failure Result) : Prop :=
  ∀ files, program.after files path = files path

theorem keeps_pure :
    Keeps path (pure result : FileProgram Path Failure Result) :=
  fun _ => rfl

theorem keeps_throw :
    Keeps path (throw failure : FileProgram Path Failure Result) :=
  fun _ => rfl

theorem keeps_check :
    Keeps path (check holds failure : FileProgram Path Failure Unit) :=
  fun _ => congrFun after_check path

theorem Keeps.bind (first : Keeps path program)
    (rest : ∀ result, Keeps path (next result)) :
    Keeps path (program >>= next) := by
  intro files
  cases ended : program.outcome files with
  | ok result =>
      rw [after_bind_ok ended]
      exact (rest result _).trans (first files)
  | error failure =>
      rw [after_bind_error ended]
      exact first files

theorem keeps_write [DecidableEq Path] (apart : path ≠ other) :
    Keeps path (write other content ending failure) := by
  intro files
  rw [after_write]
  exact Function.update_of_ne apart _ files

theorem keeps_readToString :
    Keeps path (readToString other reads failure) := by
  refine keeps_check.bind fun _ => ?_
  intro files
  change (match (files other).bind Utf8.decodeStrict with
    | some text => pure (String.ofList text)
    | none => throw failure :
      FileProgram Path Failure String).after files path = _
  cases (files other).bind Utf8.decodeStrict with
  | none => rfl
  | some text => rfl

theorem after_write_bind [DecidableEq Path]
    {next : Unit → FileProgram Path Failure Next}
    (rest : ∀ result, Keeps path (next result)) :
    (write path content ending failure >>= next).after files path =
      ending.leaves (files path) content := by
  have written : (write path content ending failure).after files path =
      ending.leaves (files path) content := by
    rw [after_write]
    exact Function.update_self path _ files
  cases ended : (write path content ending failure).outcome files with
  | ok result =>
      rw [after_bind_ok ended]
      exact (rest result _).trans written
  | error failure =>
      rw [after_bind_error ended]
      exact written

end FileProgram

end JwSwarm.Data
