import Mathlib.Data.Rat.Defs
import Mathlib.Algebra.Field.Rat

namespace JwSwarm.Data.NumberText

/-! Integers of a fixed width read from decimal text: digits after at most one
sign, with no blanks; text for a number that does not fit is refused. -/

def parseDigits (digits : List Char) : Option ℕ :=
  if digits ≠ [] ∧ digits.all Char.isDigit = true then
    some (Nat.ofDigitChars 10 digits 0)
  else none

def parseUnsigned (bits : ℕ) (text : List Char) : Option ℕ :=
  let value := match text with
    | '+' :: digits => parseDigits digits
    | digits => parseDigits digits
  value.filter (· < 2 ^ bits)

def parseSigned (bits : ℕ) (text : List Char) : Option ℤ :=
  let value := match text with
    | '-' :: digits => (parseDigits digits).map fun value => -(value : ℤ)
    | '+' :: digits => (parseDigits digits).map Int.ofNat
    | digits => (parseDigits digits).map Int.ofNat
  value.filter fun value => -2 ^ (bits - 1) ≤ value ∧ value < 2 ^ (bits - 1)

def sign : List Char → Bool × List Char
  | '-' :: rest => (true, rest)
  | '+' :: rest => (false, rest)
  | text => (false, text)

def signed {α : Type} [Neg α] (negative : Bool) (value : α) : α :=
  if negative then -value else value

def exponent (text : List Char) : ℤ × List Char :=
  match text with
  | [] => (0, [])
  | mark :: rest =>
      let digits := (sign rest).2.takeWhile Char.isDigit
      if (mark = 'e' ∨ mark = 'E') ∧ digits ≠ [] then
        (signed (sign rest).1 (Nat.ofDigitChars 10 digits 0 : ℤ),
          (sign rest).2.dropWhile Char.isDigit)
      else (0, text)

def fraction : List Char → List Char × List Char
  | '.' :: rest => (rest.takeWhile Char.isDigit, rest.dropWhile Char.isDigit)
  | text => ([], text)

def decimal (text : List Char) : Option (ℚ × List Char) :=
  let whole := text.takeWhile Char.isDigit
  let part := fraction (text.dropWhile Char.isDigit)
  let power := exponent part.2
  if whole ++ part.1 = [] then none
  else some ((Nat.ofDigitChars 10 (whole ++ part.1) 0 : ℚ) *
    10 ^ (power.1 - part.1.length), power.2)

/-- A finite floating-point number, taken exactly. -/
def parseFloat (text : List Char) : Option ℚ :=
  match decimal (sign text).2 with
  | some (value, []) => some (signed (sign text).1 value)
  | _ => none

variable {value bits : ℕ} {rest : List Char}

theorem isDigit_of_mem {char : Char} (member : char ∈ Nat.toDigits 10 value) :
    char.isDigit = true :=
  Nat.isDigit_of_mem_toDigits (by decide) (by decide) member

theorem ofDigitChars_toDigits (value : ℕ) :
    Nat.ofDigitChars 10 (Nat.toDigits 10 value) 0 = value :=
  Nat.ofDigitChars_toDigits (by decide) (by decide)

private theorem parseDigits_toDigits (value : ℕ) :
    parseDigits (Nat.toDigits 10 value) = some value := by
  have digits : (Nat.toDigits 10 value).all Char.isDigit = true :=
    List.all_eq_true.mpr fun char member => isDigit_of_mem member
  rw [parseDigits, if_pos ⟨Nat.toDigits_ne_nil, digits⟩, ofDigitChars_toDigits]

theorem exists_toDigits_cons (value : ℕ) :
    ∃ first others, Nat.toDigits 10 value = first :: others ∧
      first.isDigit = true := by
  cases digits : Nat.toDigits 10 value with
  | nil => exact absurd digits Nat.toDigits_ne_nil
  | cons first others =>
      refine ⟨first, others, rfl, @isDigit_of_mem value first ?_⟩
      rw [digits]
      exact List.mem_cons_self

private theorem sign_of_isDigit {first : Char} (digit : first.isDigit = true) :
    sign (first :: rest) = (false, first :: rest) := by
  unfold sign
  split
  · next same => cases same; cases digit
  · next same => cases same; cases digit
  · rfl

theorem sign_toDigits :
    sign (Nat.toDigits 10 value ++ rest) =
      (false, Nat.toDigits 10 value ++ rest) := by
  obtain ⟨first, others, digits, digit⟩ := exists_toDigits_cons value
  rw [digits, List.cons_append]
  exact sign_of_isDigit digit

theorem parseUnsigned_toDigits :
    parseUnsigned bits (Nat.toDigits 10 value) =
      if value < 2 ^ bits then some value else none := by
  obtain ⟨first, others, digits, digit⟩ := exists_toDigits_cons value
  have whole := parseDigits_toDigits value
  unfold parseUnsigned
  split
  · next same =>
      rw [digits] at same
      cases same
      cases digit
  · rw [whole]
    simp [Option.filter]

private theorem span_toDigits
    (ends : ∀ char ∈ rest.head?, char.isDigit = false) :
    (Nat.toDigits 10 value ++ rest).takeWhile Char.isDigit =
        Nat.toDigits 10 value ∧
      (Nat.toDigits 10 value ++ rest).dropWhile Char.isDigit = rest := by
  rw [List.takeWhile_append_of_pos fun char => isDigit_of_mem,
    List.dropWhile_append_of_pos fun char => isDigit_of_mem]
  cases rest with
  | nil => simp
  | cons char rest =>
      have other : ¬ char.isDigit = true := by simp [ends char rfl]
      rw [List.takeWhile_cons_of_neg other, List.dropWhile_cons_of_neg other,
        List.append_nil]
      exact ⟨rfl, rfl⟩

theorem decimal_toDigits (ends : ∀ char ∈ rest.head?, char.isDigit = false)
    (plain : fraction rest = ([], rest)) (bare : exponent rest = (0, rest)) :
    decimal (Nat.toDigits 10 value ++ rest) = some ((value : ℚ), rest) := by
  obtain ⟨taken, dropped⟩ := @span_toDigits value rest ends
  simp only [decimal, taken, dropped, plain, bare, List.append_nil]
  rw [if_neg Nat.toDigits_ne_nil, ofDigitChars_toDigits]
  simp

theorem parseFloat_toDigits :
    parseFloat (Nat.toDigits 10 value) = some (value : ℚ) := by
  have read := @decimal_toDigits value [] (by simp) rfl rfl
  have unsigned := @sign_toDigits value []
  rw [List.append_nil] at read unsigned
  simp [parseFloat, unsigned, read, signed]

end JwSwarm.Data.NumberText
