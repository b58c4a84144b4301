import JwSwarm.Data.NumberText
import JwSwarm.FleetManager.Enrollment
import JwSwarm.Proto.Message

namespace JwSwarm

open Data NumberText Proto
open FleetManager.Enrollment (isWhiteSpace trim)

/-! The GPU metrics that a node reads from the text `nvidia-smi` prints. -/

def Proto.Metrics.zero : Metrics where
  vramUsedMb := 0
  vramTotalMb := 0
  gpuUtilPct := 0
  tps := 0
  latencyMs := 0
  inFlight := 0

def trimmed (text : List Char) : List Char :=
  (trim (String.ofList text)).toList

namespace LinuxNode.Metrics

def readParts : List (List Char) → Option Proto.Metrics
  | used :: total :: utilization :: _ => do
      let vramUsedMb ← parseUnsigned 64 used
      let vramTotalMb ← parseUnsigned 64 total
      let gpuUtilPct ← parseFloat utilization
      pure {
        vramUsedMb := .ofNat vramUsedMb
        vramTotalMb := .ofNat vramTotalMb
        gpuUtilPct
        tps := 0
        latencyMs := 0
        inFlight := 0 }
  | _ => none

/-- `nvidia`; `output` is what the command prints, if it runs and succeeds. -/
def nvidia (output : Option (List Char)) : Option Proto.Metrics := do
  let text ← output
  readParts ((text.splitOn ',').map trimmed)

def collect (output : Option (List Char)) : Proto.Metrics :=
  (nvidia output).getD .zero

end LinuxNode.Metrics

structure GpuRow where
  used : ℕ
  total : ℕ
  utilization : ℕ
  deriving DecidableEq

inductive LineEnd where
  | lf
  | crlf

def LineEnd.chars : LineEnd → List Char
  | .lf => ['\n']
  | .crlf => ['\r', '\n']

def GpuRow.text (row : GpuRow) : List Char :=
  Nat.toDigits 10 row.used ++ ',' :: ' ' :: (Nat.toDigits 10 row.total ++
    ',' :: ' ' :: Nat.toDigits 10 row.utilization)

def printed (lineEnd : LineEnd) (rows : List GpuRow) : List Char :=
  rows.flatMap fun row => row.text ++ lineEnd.chars

structure Reports (row : GpuRow) (metrics : Metrics) : Prop where
  used : metrics.vramUsedMb.toNat = row.used
  total : metrics.vramTotalMb.toNat = row.total
  utilization : metrics.gpuUtilPct = row.utilization
  tps : metrics.tps = 0
  latency : metrics.latencyMs = 0
  inFlight : metrics.inFlight = 0

def GpuRow.metrics (row : GpuRow) : Metrics where
  vramUsedMb := .ofNat row.used
  vramTotalMb := .ofNat row.total
  gpuUtilPct := row.utilization
  tps := 0
  latencyMs := 0
  inFlight := 0

def GpuRow.fits (row : GpuRow) : Prop :=
  row.used < 2 ^ 64 ∧ row.total < 2 ^ 64

instance (row : GpuRow) : Decidable row.fits :=
  inferInstanceAs (Decidable (_ ∧ _))

variable {row : GpuRow} {rest : List GpuRow} {lineEnd : LineEnd}
variable {left core right : List Char} {value : ℕ}

theorem bind_fits {next : ℕ → ℕ → Option Metrics} :
    ((if row.used < 2 ^ 64 then some row.used else none) >>= fun used =>
        (if row.total < 2 ^ 64 then some row.total else none) >>= fun total =>
          next used total) =
      if row.fits then next row.used row.total else none := by
  by_cases used : row.used < 2 ^ 64
  · by_cases total : row.total < 2 ^ 64
    · have fits : row.fits := ⟨used, total⟩
      rw [if_pos used, if_pos total, if_pos fits]
      rfl
    · have misfit : ¬ row.fits := fun fits => total fits.2
      rw [if_pos used, if_neg total, if_neg misfit]
      rfl
  · have misfit : ¬ row.fits := fun fits => used fits.1
    rw [if_neg used, if_neg misfit]
    rfl

private theorem trimmed_eq (text : List Char) :
    trimmed text = ((text.dropWhile isWhiteSpace).reverse.dropWhile
      isWhiteSpace).reverse := by
  simp [trimmed, trim]

theorem dropWhile_blank (blank : ∀ char ∈ left, isWhiteSpace char = true)
    (solid : ∀ char ∈ core.head?, isWhiteSpace char = false) :
    (left ++ core).dropWhile isWhiteSpace = core := by
  rw [List.dropWhile_append_of_pos blank]
  cases core with
  | nil => rfl
  | cons char core =>
      exact List.dropWhile_cons_of_neg (by simp [solid char rfl])

theorem trimmed_append (before : ∀ char ∈ left, isWhiteSpace char = true)
    (first : ∀ char ∈ core.head?, isWhiteSpace char = false)
    (last : ∀ char ∈ core.getLast?, isWhiteSpace char = false)
    (after : ∀ char ∈ right, isWhiteSpace char = true)
    (nonempty : core ≠ []) :
    trimmed (left ++ (core ++ right)) = core := by
  have start : ∀ char ∈ (core ++ right).head?, isWhiteSpace char = false := by
    rw [List.head?_append_of_ne_nil core nonempty]
    exact first
  have back : ∀ char ∈ core.reverse.head?, isWhiteSpace char = false := by
    rw [List.head?_reverse]
    exact last
  rw [trimmed_eq, dropWhile_blank before start, List.reverse_append,
    dropWhile_blank (by simpa using after) back, List.reverse_reverse]

theorem blank_space : ∀ char ∈ [' '], isWhiteSpace char = true :=
  List.all_eq_true.mp rfl

private theorem blank_lineEnd :
    ∀ char ∈ lineEnd.chars, isWhiteSpace char = true := by
  cases lineEnd with
  | lf => exact List.all_eq_true.mp rfl
  | crlf => exact List.all_eq_true.mp rfl

theorem code_of_isDigit {char : Char} (digit : char.isDigit = true) :
    48 ≤ char.toNat ∧ char.toNat ≤ 57 := by
  simp only [Char.isDigit, Bool.and_eq_true, decide_eq_true_eq,
    UInt32.le_iff_toNat_le, ge_iff_le] at digit
  exact digit

theorem isWhiteSpace_of_isDigit {char : Char} (digit : char.isDigit = true) :
    isWhiteSpace char = false := by
  have code := code_of_isDigit digit
  simp only [isWhiteSpace, Bool.or_eq_false_iff, Bool.and_eq_false_iff,
    beq_eq_false_iff_ne, decide_eq_false_iff_not]
  omega

theorem notMem_toDigits {char : Char} (other : char.isDigit = false) :
    char ∉ Nat.toDigits 10 value := by
  intro member
  rw [isDigit_of_mem member] at other
  cases other

theorem solid_toDigits :
    (∀ char ∈ (Nat.toDigits 10 value).head?, isWhiteSpace char = false) ∧
      ∀ char ∈ (Nat.toDigits 10 value).getLast?, isWhiteSpace char = false :=
  ⟨fun _ first => isWhiteSpace_of_isDigit
      (isDigit_of_mem (List.mem_of_mem_head? first)),
    fun _ last => isWhiteSpace_of_isDigit
      (isDigit_of_mem (List.mem_of_getLast? last))⟩

theorem trimmed_toDigits (before : ∀ char ∈ left, isWhiteSpace char = true)
    (after : ∀ char ∈ right, isWhiteSpace char = true) :
    trimmed (left ++ (Nat.toDigits 10 value ++ right)) =
      Nat.toDigits 10 value :=
  trimmed_append before solid_toDigits.1 solid_toDigits.2 after
    Nat.toDigits_ne_nil

theorem splitOn_toDigits (text : List Char) :
    (Nat.toDigits 10 value ++ ',' :: text).splitOn ',' =
      Nat.toDigits 10 value :: text.splitOn ',' := by
  rw [List.splitOn_append_cons_self,
    List.splitOn_eq_singleton (notMem_toDigits rfl), List.singleton_append]

theorem splitOn_blank_toDigits (text : List Char) :
    (' ' :: (Nat.toDigits 10 value ++ ',' :: text)).splitOn ',' =
      (' ' :: Nat.toDigits 10 value) :: text.splitOn ',' := by
  have absent : ',' ∉ ' ' :: Nat.toDigits 10 value := by
    rw [List.mem_cons, not_or]
    exact ⟨by decide, notMem_toDigits rfl⟩
  rw [← List.cons_append, List.splitOn_append_cons_self,
    List.splitOn_eq_singleton absent, List.singleton_append]

namespace LinuxNode.Metrics

private def lastField (lineEnd : LineEnd) (row : GpuRow) :
    List GpuRow → List Char
  | [] => ' ' :: (Nat.toDigits 10 row.utilization ++ lineEnd.chars)
  | next :: _ => ' ' :: (Nat.toDigits 10 row.utilization ++
      (lineEnd.chars ++ Nat.toDigits 10 next.used))

theorem comma_notMem {text : List Char} (absent : ',' ∉ text) :
    ',' ∉ ' ' :: (Nat.toDigits 10 value ++ (lineEnd.chars ++ text)) := by
  have blank : ',' ∉ lineEnd.chars := by cases lineEnd <;> decide
  simp only [List.mem_cons, List.mem_append, not_or]
  exact ⟨by decide, notMem_toDigits rfl, blank, absent⟩

private theorem splitOn_printed (lineEnd : LineEnd) (row : GpuRow)
    (rest : List GpuRow) :
    ∃ more, (printed lineEnd (row :: rest)).splitOn ',' =
      Nat.toDigits 10 row.used :: (' ' :: Nat.toDigits 10 row.total) ::
        lastField lineEnd row rest :: more := by
  have whole : printed lineEnd (row :: rest) = Nat.toDigits 10 row.used ++
      ',' :: ' ' :: (Nat.toDigits 10 row.total ++ ',' :: ' ' ::
        (Nat.toDigits 10 row.utilization ++
          (lineEnd.chars ++ printed lineEnd rest))) := by
    simp [printed, GpuRow.text]
  rw [whole, splitOn_toDigits, splitOn_blank_toDigits]
  cases rest with
  | nil =>
      have single := List.splitOn_eq_singleton
        (@comma_notMem lineEnd row.utilization [] List.not_mem_nil)
      rw [List.append_nil] at single
      refine ⟨[], ?_⟩
      rw [lastField, ← single, printed, List.flatMap_nil, List.append_nil]
  | cons next rest =>
      have absent := @comma_notMem lineEnd row.utilization
        (Nat.toDigits 10 next.used) (notMem_toDigits rfl)
      have parted : ' ' :: (Nat.toDigits 10 row.utilization ++
          (lineEnd.chars ++ printed lineEnd (next :: rest))) =
          lastField lineEnd row (next :: rest) ++ ',' :: ' ' ::
            (Nat.toDigits 10 next.total ++ ',' :: ' ' ::
              (Nat.toDigits 10 next.utilization ++
                (lineEnd.chars ++ printed lineEnd rest))) := by
        simp [lastField, printed, GpuRow.text]
      have single : (lastField lineEnd row (next :: rest)).splitOn ',' =
          [lastField lineEnd row (next :: rest)] :=
        List.splitOn_eq_singleton absent
      rw [parted, List.splitOn_append_cons_self, single, List.singleton_append]
      exact ⟨_, rfl⟩

private theorem parseFloat_lastField_nil :
    parseFloat (trimmed (lastField lineEnd row [])) =
      some (row.utilization : ℚ) := by
  have field : trimmed (lastField lineEnd row []) =
      Nat.toDigits 10 row.utilization :=
    @trimmed_toDigits [' '] _ row.utilization blank_space blank_lineEnd
  rw [field, parseFloat_toDigits]

private theorem parseFloat_lastField_cons {next : GpuRow} :
    parseFloat (trimmed (lastField lineEnd row (next :: rest))) = none := by
  let after := lineEnd.chars ++ Nat.toDigits 10 next.used
  let core := Nat.toDigits 10 row.utilization ++ after
  have first : ∀ char ∈ core.head?, isWhiteSpace char = false := by
    rw [List.head?_append_of_ne_nil _ Nat.toDigits_ne_nil]
    exact solid_toDigits.1
  have last : ∀ char ∈ core.getLast?, isWhiteSpace char = false := by
    rw [List.getLast?_append_of_ne_nil _ (by simp [after]),
      List.getLast?_append_of_ne_nil _ Nat.toDigits_ne_nil]
    exact solid_toDigits.2
  have field : trimmed (lastField lineEnd row (next :: rest)) = core := by
    have stripped := @trimmed_append [' '] core [] blank_space first last
      (by simp) (by simp [core])
    rwa [List.append_nil] at stripped
  have read : decimal core = some ((row.utilization : ℚ), after) := by
    apply decimal_toDigits
    · cases lineEnd <;> simp [after, LineEnd.chars]
    · cases lineEnd <;> rfl
    · cases lineEnd <;> simp [after, LineEnd.chars, exponent]
  have more : ∃ char others, after = char :: others := by
    cases lineEnd <;> exact ⟨_, _, rfl⟩
  obtain ⟨char, others, more⟩ := more
  have unsigned : sign core = (false, core) := sign_toDigits
  rw [field, parseFloat, unsigned]
  dsimp only
  rw [read, more]

private theorem readParts_toDigits {last : List Char}
    {more : List (List Char)} :
    readParts (Nat.toDigits 10 row.used :: Nat.toDigits 10 row.total :: last ::
        more) =
      if row.fits then (parseFloat last).map fun gpuUtilPct =>
        { row.metrics with gpuUtilPct }
      else none := by
  rw [readParts, parseUnsigned_toDigits, parseUnsigned_toDigits, bind_fits]
  split
  · cases parseFloat last <;> rfl
  · rfl

theorem collect_printed :
    collect (some (printed lineEnd (row :: rest))) =
      if row.fits ∧ rest = [] then row.metrics else .zero := by
  obtain ⟨more, parts⟩ := splitOn_printed lineEnd row rest
  have used := @trimmed_toDigits [] [] row.used (by simp) (by simp)
  have total := @trimmed_toDigits [' '] [] row.total blank_space (by simp)
  simp only [List.append_nil, List.nil_append, List.singleton_append]
    at used total
  rw [collect, nvidia, Option.bind_eq_bind, Option.bind_some, parts,
    List.map_cons, List.map_cons, List.map_cons, used, total,
    readParts_toDigits]
  cases rest with
  | nil =>
      rw [parseFloat_lastField_nil]
      by_cases fits : row.fits
      · rw [if_pos fits, if_pos ⟨fits, rfl⟩]
        rfl
      · rw [if_neg fits, if_neg fun both => fits both.1]
        rfl
  | cons next rest =>
      rw [parseFloat_lastField_cons, Option.map_none, ite_self,
        if_neg (by simp)]
      rfl

end LinuxNode.Metrics

end JwSwarm
