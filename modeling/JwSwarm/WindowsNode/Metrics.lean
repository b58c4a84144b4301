import JwSwarm.LinuxNode.Metrics

namespace JwSwarm

open Data NumberText Proto
open FleetManager.Enrollment (isWhiteSpace)

namespace WindowsNode.Metrics

/-! `NumberStyles.Any` in the invariant culture: what may stand around a number.
A field between commas has no thousands separators. -/

structure Affixes where
  sign : Bool := false
  negative : Bool := false
  parentheses : Bool := false
  currency : Bool := false

def isWhite (char : Char) : Bool :=
  char = ' ' ∨ (9 ≤ char.toNat ∧ char.toNat ≤ 13)

/-- Blanks after a sign are skipped only behind a currency symbol. -/
def leading (affixes : Affixes) : List Char → Affixes × List Char
  | [] => (affixes, [])
  | char :: rest =>
      if isWhite char ∧ (affixes.sign = false ∨ affixes.currency) then
        leading affixes rest
      else if affixes.sign = false ∧ char = '+' then
        leading { affixes with sign := true } rest
      else if affixes.sign = false ∧ char = '-' then
        leading { affixes with sign := true, negative := true } rest
      else if affixes.sign = false ∧ char = '(' then
        leading { affixes with
          sign := true, negative := true, parentheses := true } rest
      else if affixes.currency = false ∧ char = '¤' then
        leading { affixes with currency := true } rest
      else (affixes, char :: rest)

def trailing (affixes : Affixes) : List Char → Affixes × List Char
  | [] => (affixes, [])
  | char :: rest =>
      if isWhite char then trailing affixes rest
      else if affixes.sign = false ∧ char = '+' then
        trailing { affixes with sign := true } rest
      else if affixes.sign = false ∧ char = '-' then
        trailing { affixes with sign := true, negative := true } rest
      else if affixes.parentheses ∧ char = ')' then
        trailing { affixes with parentheses := false } rest
      else if affixes.currency = false ∧ char = '¤' then
        trailing { affixes with currency := true } rest
      else (affixes, char :: rest)

def tryParseDouble (text : List Char) : Option ℚ := do
  let start := leading {} text
  let number ← decimal start.2
  let finish := trailing start.1 number.2
  if finish.1.parentheses = false ∧ finish.2.all (· = '\x00') then
    some (signed finish.1.negative number.1)
  else none

def tryParseUInt64 (text : List Char) : Option ℕ := do
  let value ← tryParseDouble text
  if value.den = 1 ∧ 0 ≤ value ∧ value < 2 ^ 64 then some value.num.toNat
  else none

def readParts : List (List Char) → Option Proto.Metrics
  | used :: total :: utilization :: _ => do
      let used ← tryParseUInt64 (trimmed used)
      let total ← tryParseUInt64 (trimmed total)
      let gpuUtilPct ← tryParseDouble (trimmed utilization)
      pure {
        vramUsedMb := .ofNat used
        vramTotalMb := .ofNat total
        gpuUtilPct
        tps := 0
        latencyMs := 0
        inFlight := 0 }
  | _ => none

/-- `MetricsCollector.Collect`; `output` is what the command prints, if it runs
and succeeds. -/
def collect (output : Option (List Char)) : Proto.Metrics :=
  match output.bind fun text => (text.splitOn '\n').head? with
  | some line =>
      if line.all isWhiteSpace then .zero
      else (readParts (line.splitOn ',')).getD .zero
  | none => .zero

variable {row : GpuRow} {rest : List GpuRow} {lineEnd : LineEnd} {value : ℕ}

private theorem leading_of_isDigit {affixes : Affixes} {first : Char}
    {others : List Char} (digit : first.isDigit = true) :
    leading affixes (first :: others) = (affixes, first :: others) := by
  have white : isWhite first = false := by
    have code := code_of_isDigit digit
    have blank : first ≠ ' ' := fun same => by cases same; cases digit
    simp only [isWhite, decide_eq_false_iff_not, not_or]
    exact ⟨blank, by omega⟩
  have plus : first ≠ '+' := fun same => by cases same; cases digit
  have minus : first ≠ '-' := fun same => by cases same; cases digit
  have opening : first ≠ '(' := fun same => by cases same; cases digit
  have symbol : first ≠ '¤' := fun same => by cases same; cases digit
  simp [leading, white, plus, minus, opening, symbol]

theorem tryParseDouble_toDigits :
    tryParseDouble (Nat.toDigits 10 value) = some (value : ℚ) := by
  obtain ⟨first, others, digits, digit⟩ := exists_toDigits_cons value
  have read : decimal (first :: others) = some ((value : ℚ), []) := by
    have whole := @decimal_toDigits value [] nofun rfl rfl
    rwa [List.append_nil, digits] at whole
  rw [tryParseDouble, digits, leading_of_isDigit digit, read]
  rfl

theorem tryParseUInt64_toDigits :
    tryParseUInt64 (Nat.toDigits 10 value) =
      if value < 2 ^ 64 then some value else none := by
  have small : (value : ℚ) < 2 ^ 64 ↔ value < 2 ^ 64 := by
    exact_mod_cast Iff.rfl
  simp [tryParseUInt64, tryParseDouble_toDigits, small]

/-- What a line still holds of its end once the text is split at line feeds. -/
private def leftOf : LineEnd → List Char
  | .lf => []
  | .crlf => ['\r']

private theorem blank_leftOf :
    ∀ char ∈ leftOf lineEnd, isWhiteSpace char = true := by
  cases lineEnd with
  | lf => exact List.all_eq_true.mp rfl
  | crlf => exact List.all_eq_true.mp rfl

private theorem notMem_line {char : Char} (digit : char.isDigit = false)
    (comma : char ≠ ',') (blank : char ≠ ' ') (last : char ∉ leftOf lineEnd) :
    char ∉ row.text ++ leftOf lineEnd := by
  simp [GpuRow.text, notMem_toDigits digit, comma, blank, last]

private theorem head?_splitOn_printed :
    ((printed lineEnd (row :: rest)).splitOn '\n').head? =
      some (row.text ++ leftOf lineEnd) := by
  have whole : printed lineEnd (row :: rest) =
      (row.text ++ leftOf lineEnd) ++ '\n' :: printed lineEnd rest := by
    cases lineEnd <;> simp [printed, LineEnd.chars, leftOf]
  have absent : '\n' ∉ row.text ++ leftOf lineEnd :=
    notMem_line rfl (by decide) (by decide) (by cases lineEnd <;> decide)
  rw [whole, List.splitOn_append_cons_self, List.splitOn_eq_singleton absent]
  rfl

private theorem splitOn_line :
    (row.text ++ leftOf lineEnd).splitOn ',' =
      [Nat.toDigits 10 row.used, ' ' :: Nat.toDigits 10 row.total,
        ' ' :: (Nat.toDigits 10 row.utilization ++ leftOf lineEnd)] := by
  have absent : ',' ∉
      ' ' :: (Nat.toDigits 10 row.utilization ++ leftOf lineEnd) := by
    have blank : ',' ∉ leftOf lineEnd := by cases lineEnd <;> decide
    simp [notMem_toDigits, blank]
  rw [GpuRow.text, List.append_assoc, List.cons_append, List.cons_append,
    List.append_assoc, List.cons_append, List.cons_append, splitOn_toDigits,
    splitOn_blank_toDigits, List.splitOn_eq_singleton absent]

private theorem readParts_line :
    readParts ((row.text ++ leftOf lineEnd).splitOn ',') =
      if row.fits then some row.metrics else none := by
  have used := @trimmed_toDigits [] [] row.used (by simp) (by simp)
  have total := @trimmed_toDigits [' '] [] row.total blank_space (by simp)
  have utilization := @trimmed_toDigits [' '] (leftOf lineEnd)
    row.utilization blank_space blank_leftOf
  simp only [List.append_nil, List.nil_append, List.singleton_append]
    at used total utilization
  rw [splitOn_line, readParts, used, total, utilization,
    tryParseUInt64_toDigits, tryParseUInt64_toDigits, tryParseDouble_toDigits,
    bind_fits]
  rfl

theorem collect_printed :
    collect (some (printed lineEnd (row :: rest))) =
      if row.fits then row.metrics else .zero := by
  have solid : (row.text ++ leftOf lineEnd).all isWhiteSpace = false := by
    obtain ⟨first, others, digits, digit⟩ := exists_toDigits_cons row.used
    rw [GpuRow.text, digits, List.cons_append, List.cons_append, List.all_cons,
      isWhiteSpace_of_isDigit digit, Bool.false_and]
  rw [collect, Option.bind_some, head?_splitOn_printed]
  change (if (row.text ++ leftOf lineEnd).all isWhiteSpace = true then _
    else (readParts _).getD _) = _
  rw [solid, if_neg Bool.false_ne_true, readParts_line]
  split <;> rfl

end WindowsNode.Metrics

variable {row : GpuRow}

theorem toNat_ofNat_word {value : ℕ} :
    (UInt64.ofNat value).toNat = value ↔ value < 2 ^ 64 := by
  rw [UInt64.toNat_ofNat']
  exact Nat.mod_eq_iff_lt (by decide)

private theorem reports_metrics_iff : Reports row row.metrics ↔ row.fits := by
  constructor
  · intro reports
    exact ⟨toNat_ofNat_word.mp reports.used, toNat_ofNat_word.mp reports.total⟩
  · intro fits
    exact ⟨toNat_ofNat_word.mpr fits.1, toNat_ofNat_word.mpr fits.2, rfl, rfl,
      rfl, rfl⟩

theorem reports_zero_iff : Reports row .zero ↔ row = ⟨0, 0, 0⟩ := by
  constructor
  · intro reports
    have utilization : row.utilization = 0 :=
      Nat.cast_eq_zero.mp reports.utilization.symm
    cases row
    rw [GpuRow.mk.injEq]
    exact ⟨reports.used.symm, reports.total.symm, utilization⟩
  · rintro rfl
    exact ⟨rfl, rfl, rfl, rfl, rfl, rfl⟩

/-- Both collectors report the first of the GPUs exactly where its memory fits
and it is the only one, or has nothing to report. The utilisation, a double in
the source, is an exact rational. -/
theorem collectors_report_iff (row : GpuRow) (rest : List GpuRow)
    (linuxEnd windowsEnd : LineEnd) :
    (LinuxNode.Metrics.collect (some (printed linuxEnd (row :: rest))) =
          WindowsNode.Metrics.collect
            (some (printed windowsEnd (row :: rest))) ∧
        Reports row (LinuxNode.Metrics.collect
          (some (printed linuxEnd (row :: rest))))) ↔
      row.used < 2 ^ 64 ∧ row.total < 2 ^ 64 ∧
        (rest = [] ∨ row = ⟨0, 0, 0⟩) := by
  rw [LinuxNode.Metrics.collect_printed, WindowsNode.Metrics.collect_printed,
    ← and_assoc]
  change _ ↔ row.fits ∧ (rest = [] ∨ row = ⟨0, 0, 0⟩)
  by_cases fits : row.fits
  · by_cases single : rest = []
    · rw [if_pos ⟨fits, single⟩, if_pos fits, reports_metrics_iff]
      simp [fits, single]
    · rw [if_neg fun both => single both.2, if_pos fits, reports_zero_iff]
      constructor
      · intro both
        exact ⟨fits, .inr both.2⟩
      · rintro ⟨-, absent | zero⟩
        · exact absurd absent single
        · subst zero
          exact ⟨rfl, rfl⟩
  · rw [if_neg fun both => fits both.1, if_neg fits, reports_zero_iff]
    constructor
    · rintro ⟨-, zero⟩
      subst zero
      exact absurd ⟨by decide, by decide⟩ fits
    · rintro ⟨both, -⟩
      exact absurd both fits

/-- A server with two GPUs: Linux reports zeros, Windows the first GPU. -/
theorem two_gpus_reported_differently :
    let rows := [GpuRow.mk 1200 24576 37, GpuRow.mk 800 24576 5]
    LinuxNode.Metrics.collect (some (printed .lf rows)) = .zero ∧
      WindowsNode.Metrics.collect (some (printed .crlf rows)) =
        (GpuRow.mk 1200 24576 37).metrics ∧
      ¬ Reports (GpuRow.mk 1200 24576 37)
        (LinuxNode.Metrics.collect (some (printed .lf rows))) := by
  have linux : LinuxNode.Metrics.collect (some (printed .lf
      [GpuRow.mk 1200 24576 37, GpuRow.mk 800 24576 5])) = .zero := by
    rw [LinuxNode.Metrics.collect_printed, if_neg (by simp)]
  have windows : WindowsNode.Metrics.collect (some (printed .crlf
      [GpuRow.mk 1200 24576 37, GpuRow.mk 800 24576 5])) =
      (GpuRow.mk 1200 24576 37).metrics := by
    rw [WindowsNode.Metrics.collect_printed, if_pos (by decide)]
  refine ⟨linux, windows, ?_⟩
  rw [linux, reports_zero_iff]
  decide

end JwSwarm
