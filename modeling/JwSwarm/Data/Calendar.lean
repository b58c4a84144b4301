import Mathlib.Data.List.Lex
import Mathlib.Data.Int.Basic
import JwSwarm.Data.Decimals

namespace JwSwarm.Data.Calendar

open Decimals

/-! Instants as calendar text, in the format of RFC 3339 for UTC, and when the
byte order of such text is the order of time. -/

section Locate

variable (length : ℕ → ℕ)

def locate : ℕ → ℕ → ℕ → ℕ × ℕ
  | 0, block, offset => (block, offset)
  | fuel + 1, block, offset =>
      if offset < length block then (block, offset)
      else locate fuel (block + 1) (offset - length block)

variable {fuel block offset other : ℕ}

private theorem le_locate : block ≤ (locate length fuel block offset).1 := by
  induction fuel generalizing block offset with
  | zero => exact Nat.le_refl block
  | succ fuel ih =>
      rw [locate]
      split
      · exact Nat.le_refl block
      · exact (Nat.le_succ block).trans ih

private theorem locate_le :
    (locate length fuel block offset).1 ≤ block + fuel := by
  induction fuel generalizing block offset with
  | zero => exact Nat.le_refl block
  | succ fuel ih =>
      rw [locate]
      split
      · exact Nat.le_add_right block _
      · have rest := @ih (block + 1) (offset - length block)
        omega

theorem locate_lt_length
    (within : (locate length fuel block offset).1 < block + fuel) :
    (locate length fuel block offset).2 <
      length (locate length fuel block offset).1 := by
  induction fuel generalizing block offset with
  | zero => exact absurd within (Nat.lt_irrefl _)
  | succ fuel ih =>
      rw [locate] at within ⊢
      split at within
      · next inside => rwa [if_pos inside]
      · next outside =>
          rw [if_neg outside]
          exact ih (by omega)

theorem locate_lt_of_lt_sum
    (within : offset < ((List.range' block fuel).map length).sum) :
    (locate length fuel block offset).1 < block + fuel := by
  induction fuel generalizing block offset with
  | zero => cases within
  | succ fuel ih =>
      rw [List.range'_succ, List.map_cons, List.sum_cons] at within
      rw [locate]
      split
      · omega
      · have rest := @ih (block + 1) (offset - length block) (by omega)
        omega

theorem locate_lt (less : offset < other) :
    (locate length fuel block offset).1 < (locate length fuel block other).1 ∨
      (locate length fuel block offset).1 =
          (locate length fuel block other).1 ∧
        (locate length fuel block offset).2 <
          (locate length fuel block other).2 := by
  induction fuel generalizing block offset other with
  | zero => exact .inr ⟨rfl, less⟩
  | succ fuel ih =>
      rw [locate, locate]
      split
      · split
        · exact .inr ⟨rfl, less⟩
        · exact .inl (le_locate length)
      · rw [if_neg (by omega : ¬ other < length block)]
        exact ih (by omega)

end Locate

def isLeapYear (year : ℕ) : Bool :=
  year % 4 == 0 && (year % 100 != 0 || year % 400 == 0)

def daysInYear (year : ℕ) : ℕ :=
  if isLeapYear year then 366 else 365

def daysInMonth (leap : Bool) : ℕ → ℕ
  | 2 => if leap then 29 else 28
  | 4 | 6 | 9 | 11 => 30
  | _ => 31

/-- Year and ordinal day of a day; years from 10000 on are not told apart. -/
def yearOf (days : ℕ) : ℕ × ℕ :=
  locate daysInYear 10000 0 days

def monthOf (date : ℕ × ℕ) : ℕ × ℕ :=
  locate (daysInMonth (isLeapYear date.1)) 12 1 date.2

/-- Year, month, day, hour, minute and second. -/
def civil (seconds : ℕ) : List ℕ :=
  let date := yearOf (seconds / 86400)
  let month := monthOf date
  let clock := seconds % 86400
  [date.1, month.1, month.2 + 1, clock / 3600, clock % 3600 / 60,
    clock % 3600 % 60]

theorem civil_strictMono : StrictMono civil := by
  intro seconds other less
  simp only [civil, List.cons_lt_cons_iff, List.not_lt_nil, and_false, or_false]
  rcases div_mod_lt_iff.mpr less with days | ⟨sameDay, clock⟩
  · rcases @locate_lt daysInYear 10000 0 _ _ days with year | ⟨year, ordinal⟩
    · exact .inl year
    · refine .inr ⟨year, ?_⟩
      have month := @locate_lt
        (daysInMonth (isLeapYear (yearOf (other / 86400)).1)) 12 1 _ _ ordinal
      simp only [monthOf, yearOf] at month ⊢
      rw [year]
      omega
  · rw [sameDay]
    refine .inr ⟨rfl, .inr ⟨rfl, .inr ⟨rfl, ?_⟩⟩⟩
    rcases div_mod_lt_iff.mpr clock with hour | ⟨sameHour, rest⟩
    · exact .inl hour
    · exact .inr ⟨sameHour, div_mod_lt_iff.mpr rest⟩

private theorem sum_daysInMonth (leap : Bool) :
    ((List.range' 1 12).map (daysInMonth leap)).sum =
      if leap then 366 else 365 := by
  cases leap <;> rfl

private theorem daysInMonth_le (leap : Bool) (month : ℕ) :
    daysInMonth leap month ≤ 31 := by
  unfold daysInMonth
  split
  · split <;> decide
  · decide
  · decide
  · decide
  · decide
  · decide

private theorem monthOf_le (date : ℕ × ℕ) : (monthOf date).1 ≤ 13 :=
  locate_le _

private theorem dayOfMonth_lt {days : ℕ} (named : (yearOf days).1 < 10000) :
    (monthOf (yearOf days)).2 < 31 := by
  have ordinal := locate_lt_length daysInYear named
  have month : (monthOf (yearOf days)).1 < 1 + 12 := by
    apply locate_lt_of_lt_sum
    rw [sum_daysInMonth]
    exact ordinal
  exact (locate_lt_length _ month).trans_le (daysInMonth_le _ _)

def numerals : List (ℕ × List Char) → List ℕ → List Char
  | (width, separator) :: shape, value :: values =>
      digits width value ++ (separator ++ numerals shape values)
  | _, _ => []

def Fits : List (ℕ × List Char) → List ℕ → Prop :=
  List.Forall₂ fun field value => value < 10 ^ field.1

variable {shape : List (ℕ × List Char)} {values others : List ℕ}

private theorem length_numerals (fits : Fits shape values)
    (fitting : Fits shape others) :
    (numerals shape values).length = (numerals shape others).length := by
  induction fits generalizing others with
  | nil =>
      cases fitting
      rfl
  | cons _ _ ih =>
      cases fitting with
      | cons _ rest =>
          rw [numerals, numerals, List.length_append, List.length_append,
            List.length_append, List.length_append, ih rest, length_digits,
            length_digits]

theorem numerals_lt_numerals_iff (fits : Fits shape values)
    (fitting : Fits shape others) :
    numerals shape values < numerals shape others ↔ values < others := by
  induction fits generalizing others with
  | nil =>
      cases fitting
      simp [numerals]
  | cons fit _ ih =>
      cases fitting with
      | cons fits rest =>
          rw [numerals, numerals,
            append_lt_append_iff ((length_digits _ _).trans
              (length_digits _ _).symm),
            append_lt_append_iff rfl, digits_lt_digits_iff fit fits,
            digits_inj fit fits, ih rest, List.cons_lt_cons_iff]
          simp

private theorem numerals_inj (fits : Fits shape values)
    (fitting : Fits shape others) :
    numerals shape values = numerals shape others ↔ values = others := by
  constructor
  · intro same
    have above := numerals_lt_numerals_iff fits fitting
    have below := numerals_lt_numerals_iff fitting fits
    rw [same] at above below
    have irrefl := lt_irrefl (numerals shape others)
    exact le_antisymm (not_lt.mp (mt below.mpr irrefl))
      (not_lt.mp (mt above.mpr irrefl))
  · rintro rfl
    rfl

def dotted : List Char → List Char
  | [] => []
  | digits => '.' :: digits

def fraction (nanoseconds : ℕ) : List Char :=
  dotted (trimmedDigits 9 nanoseconds)

def dateTime : List (ℕ × List Char) :=
  [(4, ['-']), (2, ['-']), (2, ['T']), (2, [':']), (2, [':']), (2, [])]

/-- Nanoseconds from the first day of year 0 to the Unix epoch. -/
def epoch : ℤ :=
  719528 * 86400 * 1000000000

/-- The text of an instant in nanoseconds since the Unix epoch; years take four
digits. -/
def formatRfc3339 (instant : ℤ) : Option String :=
  let elapsed := (instant + epoch).toNat
  let seconds := elapsed / 1000000000
  if 0 ≤ instant + epoch ∧ (yearOf (seconds / 86400)).1 < 10000 then
    some (String.ofList (numerals dateTime (civil seconds) ++
      (fraction (elapsed % 1000000000) ++ ['Z'])))
  else none

def fractionDigits (instant : ℤ) : List Char :=
  trimmedDigits 9 (instant % 1000000000).toNat

/-- Two instants of one second, the digits of one's fraction beginning the
digits of the other's. -/
def Confusable (instant other : ℤ) : Prop :=
  instant / 1000000000 = other / 1000000000 ∧
    fractionDigits instant ≠ fractionDigits other ∧
      (fractionDigits instant <+: fractionDigits other ∨
        fractionDigits other <+: fractionDigits instant)

instance (instant other : ℤ) : Decidable (Confusable instant other) :=
  inferInstanceAs (Decidable (_ ∧ _))

theorem civil_fits {seconds : ℕ}
    (named : (yearOf (seconds / 86400)).1 < 10000) :
    Fits dateTime (civil seconds) := by
  have month := monthOf_le (yearOf (seconds / 86400))
  have day := dayOfMonth_lt named
  refine .cons ?_ (.cons ?_ (.cons ?_ (.cons ?_ (.cons ?_ (.cons ?_ .nil)))))
  · exact named
  · change _ < 100
    omega
  · change _ < 100
    omega
  · change _ < 100
    omega
  · change _ < 100
    omega
  · change _ < 100
    omega

private theorem dotted_lt_dotted_iff {digits others : List Char}
    (below : ∀ char ∈ digits ++ others, char < 'Z') :
    dotted digits ++ ['Z'] < dotted others ++ ['Z'] ↔
      digits ++ ['Z'] < others ++ ['Z'] := by
  have point : '.' < 'Z' := by decide
  cases digits with
  | nil =>
      cases others with
      | nil => rfl
      | cons char others =>
          have digit : char < 'Z' := below char List.mem_cons_self
          simp [dotted, List.cons_lt_cons_iff, point.not_gt, digit.not_gt,
            digit.ne']
  | cons char digits =>
      cases others with
      | nil =>
          have digit : char < 'Z' := below char List.mem_cons_self
          simp [dotted, List.cons_lt_cons_iff, point, digit]
      | cons other others => simp [dotted, List.cons_lt_cons_iff]

/-- Within a second, texts are ordered as the fractions are, unless the digits
of one begin the digits of the other. -/
theorem fraction_lt_fraction_iff {nanoseconds other : ℕ}
    (small : nanoseconds < 1000000000) (less : other < 1000000000) :
    (fraction nanoseconds ++ ['Z'] < fraction other ++ ['Z'] ↔
        nanoseconds < other) ↔
      ¬ (trimmedDigits 9 nanoseconds ≠ trimmedDigits 9 other ∧
        (trimmedDigits 9 nanoseconds <+: trimmedDigits 9 other ∨
          trimmedDigits 9 other <+: trimmedDigits 9 nanoseconds)) := by
  have below (char : Char) (member : char ∈ trimmedDigits 9 nanoseconds ++
      trimmedDigits 9 other) : char < 'Z' := by
    apply lt_of_le_of_lt _ (by decide : '9' < 'Z')
    rcases List.mem_append.mp member with left | right
    · exact (trimmedDigit_range left).2
    · exact (trimmedDigit_range right).2
  rw [fraction, fraction, dotted_lt_dotted_iff below]
  exact trimmedDigits_lt_iff (by decide) small less

section Elapsed

variable {instant other : ℤ} {elapsed otherElapsed : ℕ}

private theorem elapsed_lt_iff (passed : instant + epoch = elapsed)
    (otherPassed : other + epoch = otherElapsed) :
    instant < other ↔ elapsed < otherElapsed := by
  omega

theorem elapsed_div (passed : instant + epoch = elapsed) :
    instant / 1000000000 + 62167219200 = (elapsed / 1000000000 : ℕ) := by
  unfold epoch at passed
  omega

theorem elapsed_mod (passed : instant + epoch = elapsed) :
    fractionDigits instant = trimmedDigits 9 (elapsed % 1000000000) := by
  have same : (instant % 1000000000).toNat = elapsed % 1000000000 := by
    unfold epoch at passed
    omega
  rw [fractionDigits, same]

end Elapsed

/-- The order of two texts is the order of time exactly where the instants are
not confusable. -/
theorem formatRfc3339_lt_iff {instant other : ℤ} {text otherText : String}
    (named : formatRfc3339 instant = some text)
    (otherNamed : formatRfc3339 other = some otherText) :
    (text < otherText ↔ instant < other) ↔ ¬ Confusable instant other := by
  simp only [formatRfc3339, Option.ite_none_right_eq_some, Option.some.injEq]
    at named otherNamed
  obtain ⟨⟨since, year⟩, rfl⟩ := named
  obtain ⟨⟨otherSince, otherYear⟩, rfl⟩ := otherNamed
  obtain ⟨elapsed, passed⟩ := Int.eq_ofNat_of_zero_le since
  obtain ⟨otherElapsed, otherPassed⟩ := Int.eq_ofNat_of_zero_le otherSince
  have fits := civil_fits year
  have otherFits := civil_fits otherYear
  have second := elapsed_div passed
  have otherSecond := elapsed_div otherPassed
  rw [String.lt_iff_toList_lt, String.toList_ofList, String.toList_ofList,
    append_lt_append_iff (length_numerals fits otherFits),
    numerals_lt_numerals_iff fits otherFits, numerals_inj fits otherFits,
    civil_strictMono.lt_iff_lt, civil_strictMono.injective.eq_iff,
    elapsed_lt_iff passed otherPassed, Confusable, elapsed_mod passed,
    elapsed_mod otherPassed, passed, otherPassed, Int.toNat_natCast,
    Int.toNat_natCast]
  by_cases same : elapsed / 1000000000 = otherElapsed / 1000000000
  · have sameSecond : instant / 1000000000 = other / 1000000000 := by omega
    have order : elapsed < otherElapsed ↔
        elapsed % 1000000000 < otherElapsed % 1000000000 := by
      rw [← @div_mod_lt_iff elapsed otherElapsed 1000000000]
      simp [same]
    have fractions := @fraction_lt_fraction_iff (elapsed % 1000000000)
      (otherElapsed % 1000000000) (Nat.mod_lt _ (by decide))
      (Nat.mod_lt _ (by decide))
    simpa [same, sameSecond, order] using fractions
  · have apart : instant / 1000000000 ≠ other / 1000000000 := by omega
    have order : elapsed < otherElapsed ↔
        elapsed / 1000000000 < otherElapsed / 1000000000 := by
      rw [← @div_mod_lt_iff elapsed otherElapsed 1000000000]
      simp [same]
    simp [same, apart, order]

private theorem daysInYear_cycle (year cycles : ℕ) :
    daysInYear (400 * cycles + year) = daysInYear year := by
  have four : (400 * cycles + year) % 4 = year % 4 := by omega
  have hundred : (400 * cycles + year) % 100 = year % 100 := by omega
  have whole : (400 * cycles + year) % 400 = year % 400 := by omega
  have leap : isLeapYear (400 * cycles + year) = isLeapYear year := by
    rw [isLeapYear, isLeapYear, four, hundred, whole]
  rw [daysInYear, daysInYear, leap]

private theorem sum_daysInYear (cycles : ℕ) :
    ((List.range' 0 (400 * cycles)).map daysInYear).sum = 146097 * cycles := by
  induction cycles with
  | zero => rfl
  | succ cycles ih =>
      have cycle : (List.range' (400 * cycles) 400).map daysInYear =
          (List.range' 0 400).map daysInYear := by
        have shifted := @List.map_add_range' (400 * cycles) 0 400 1
        rw [Nat.add_zero] at shifted
        rw [← shifted, List.map_map]
        apply List.map_congr_left
        intro year _
        exact daysInYear_cycle year cycles
      have first : ((List.range' 0 400).map daysInYear).sum = 146097 := by
        decide +kernel
      rw [Nat.mul_succ, ← List.range'_append_1, List.map_append,
        List.sum_append, ih, Nat.zero_add, cycle, first]
      rfl

/-- Midnight at the start of the year 10000. -/
def newYear10000 : ℤ := 253402300800 * 1000000000

theorem exists_formatRfc3339 {instant : ℤ} (since : 0 ≤ instant + epoch)
    (before : instant < newYear10000) :
    ∃ text, formatRfc3339 instant = some text := by
  have days : (instant + epoch).toNat / 1000000000 / 86400 <
      ((List.range' 0 10000).map daysInYear).sum := by
    rw [sum_daysInYear 25]
    unfold epoch newYear10000 at *
    omega
  have named := locate_lt_of_lt_sum daysInYear days
  exact ⟨_, if_pos ⟨since, named⟩⟩

end JwSwarm.Data.Calendar
