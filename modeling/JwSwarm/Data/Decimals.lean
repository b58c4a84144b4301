import Mathlib.Data.List.DropRight
import Mathlib.Data.String.Basic
import Mathlib.Tactic.Ring

namespace JwSwarm.Data.Decimals

/-! Decimal digits as text, and the byte order of such text against the order of
the numbers. -/

section Order

variable {α : Type} [LinearOrder α] {first second : List α}
variable {left right : List α} {a b : α}

theorem append_lt_append_iff (same : first.length = second.length) :
    first ++ left < second ++ right ↔
      first < second ∨ first = second ∧ left < right := by
  induction first generalizing second with
  | nil =>
      obtain rfl := List.length_eq_zero_iff.mp same.symm
      simp
  | cons a first ih =>
      cases second with
      | nil => cases same
      | cons b second =>
          rw [List.cons_append, List.cons_append, List.cons_lt_cons_iff,
            List.cons_lt_cons_iff, ih (Nat.succ.inj same), List.cons.injEq]
          tauto

variable {zero top : α} {u v : List α}

omit [LinearOrder α] in
theorem getLast?_tail {a : α} (trimmed : (a :: u).getLast? ≠ some zero) :
    u.getLast? ≠ some zero := by
  cases u with
  | nil => nofun
  | cons b u => rwa [List.getLast?_cons_cons] at trimmed

theorem replicate_lt_append {count : ℕ} (nonempty : u ≠ [])
    (least : ∀ a ∈ u, zero ≤ a) (trimmed : u.getLast? ≠ some zero) :
    List.replicate (u.length + count) zero <
      u ++ List.replicate count zero := by
  induction u with
  | nil => exact absurd rfl nonempty
  | cons a u ih =>
      obtain ⟨first, others⟩ := List.forall_mem_cons.mp least
      rw [List.length_cons, Nat.add_right_comm, List.replicate_succ,
        List.cons_append, List.cons_lt_cons_iff]
      rcases first.lt_or_eq with below | rfl
      · exact .inl below
      · cases u with
        | nil => exact absurd rfl trimmed
        | cons b u => exact .inr ⟨rfl, ih (List.cons_ne_nil _ _) others
            (getLast?_tail trimmed)⟩

/-- Ended by a letter above all digits, trimmed numerals are ordered as their
padded forms are, unless one is a proper prefix of the other. -/
theorem ended_lt_iff_padded {m n : ℕ}
    (digits : ∀ a ∈ u ++ v, zero ≤ a ∧ a < top)
    (first : u.getLast? ≠ some zero) (second : v.getLast? ≠ some zero)
    (same : u.length + m = v.length + n) :
    (u ++ [top] < v ++ [top] ↔
        u ++ List.replicate m zero < v ++ List.replicate n zero) ↔
      ¬ (u ≠ v ∧ (u <+: v ∨ v <+: u)) := by
  induction u generalizing v with
  | nil =>
      cases v with
      | nil =>
          obtain rfl : m = n := by simpa using same
          simp
      | cons b v =>
          have longer := @replicate_lt_append α _ zero (b :: v) n
            (List.cons_ne_nil _ _) (fun a inside => (digits a inside).1) second
          rw [← same, List.length_nil, Nat.zero_add] at longer
          have below : b < top := (digits b List.mem_cons_self).2
          have wrong : ¬ ([] ++ [top] < (b :: v) ++ [top]) := by
            simp [List.cons_lt_cons_iff, below.not_gt, below.ne']
          exact iff_of_false (fun both => wrong (both.mpr longer))
            (fun apart => apart ⟨nofun, .inl List.nil_prefix⟩)
  | cons a u ih =>
      cases v with
      | nil =>
          have longer := @replicate_lt_append α _ zero (a :: u) m
            (List.cons_ne_nil _ _)
            (fun b inside => (digits b (List.mem_append_left _ inside)).1) first
          rw [same, List.length_nil, Nat.zero_add] at longer
          have below : a < top := (digits a List.mem_cons_self).2
          have wrong : (a :: u) ++ [top] < [] ++ [top] := by
            simp [List.cons_lt_cons_iff, below]
          exact iff_of_false (fun both => longer.not_gt (both.mp wrong))
            (fun apart => apart ⟨nofun, .inr List.nil_prefix⟩)
      | cons b v =>
          simp only [List.cons_append, List.cons_lt_cons_iff,
            List.cons_prefix_cons, ne_eq, List.cons.injEq]
          by_cases equal : a = b
          · subst equal
            have inside : ∀ c ∈ u ++ v, zero ≤ c ∧ c < top := by
              intro c member
              apply digits c
              rcases List.mem_append.mp member with left | right
              · exact List.mem_append_left _ (List.mem_cons_of_mem _ left)
              · exact List.mem_append_right _ (List.mem_cons_of_mem _ right)
            have rest := @ih v inside (getLast?_tail first)
              (getLast?_tail second) (by simpa [Nat.add_right_comm] using same)
            simpa using rest
          · simp [equal, Ne.symm equal]

end Order

theorem div_mod_lt_iff {value other divisor : ℕ} :
    value / divisor < other / divisor ∨
        value / divisor = other / divisor ∧ value % divisor < other % divisor ↔
      value < other := by
  have one := Nat.div_add_mod value divisor
  have two := Nat.div_add_mod other divisor
  constructor
  · rintro (less | ⟨same, less⟩)
    · exact Nat.lt_of_div_lt_div less
    · rw [same] at one
      omega
  · intro less
    rcases Nat.lt_or_eq_of_le (Nat.div_le_div_right less.le) with below | same
    · exact .inl below
    · refine .inr ⟨same, ?_⟩
      rw [same] at one
      omega

def digit (value : ℕ) : Char :=
  Char.ofNat (0x30 + value % 10)

def digits : ℕ → ℕ → List Char
  | 0, _ => []
  | width + 1, value =>
      digit (value / 10 ^ width) :: digits width (value % 10 ^ width)

variable {width value other : ℕ}

theorem toNat_digit (value : ℕ) : (digit value).toNat = 0x30 + value % 10 := by
  have small : value % 10 < 10 := Nat.mod_lt _ (by decide)
  have valid : (0x30 + value % 10).isValidChar := by
    left
    omega
  rw [digit, Char.ofNat, dif_pos valid]
  rfl

private theorem digit_lt_digit_iff (small : value < 10) (less : other < 10) :
    digit value < digit other ↔ value < other := by
  rw [Char.lt_def, UInt32.lt_iff_toNat_lt]
  change (digit value).toNat < (digit other).toNat ↔ _
  rw [toNat_digit, toNat_digit]
  omega

private theorem digit_inj (small : value < 10) (less : other < 10) :
    digit value = digit other ↔ value = other := by
  constructor
  · intro same
    have codes := congrArg Char.toNat same
    rw [toNat_digit, toNat_digit] at codes
    omega
  · rintro rfl
    rfl

@[simp] theorem length_digits (width value : ℕ) :
    (digits width value).length = width := by
  induction width generalizing value with
  | zero => rfl
  | succ width ih => rw [digits, List.length_cons, ih]

theorem div_lt_ten (small : value < 10 ^ (width + 1)) :
    value / 10 ^ width < 10 :=
  Nat.div_lt_of_lt_mul (by rwa [Nat.pow_succ] at small)

theorem digits_lt_digits_iff (small : value < 10 ^ width)
    (less : other < 10 ^ width) :
    digits width value < digits width other ↔ value < other := by
  induction width generalizing value other with
  | zero =>
      rw [Nat.pow_zero] at small less
      simp only [digits, List.not_lt_nil, false_iff]
      omega
  | succ width ih =>
      have positive : 0 < 10 ^ width := Nat.pow_pos (by decide)
      have inside := ih (Nat.mod_lt value positive) (Nat.mod_lt other positive)
      rw [digits, digits, List.cons_lt_cons_iff,
        digit_lt_digit_iff (div_lt_ten small) (div_lt_ten less),
        digit_inj (div_lt_ten small) (div_lt_ten less), inside]
      exact div_mod_lt_iff

theorem digits_inj (small : value < 10 ^ width) (less : other < 10 ^ width) :
    digits width value = digits width other ↔ value = other := by
  constructor
  · intro same
    have above := digits_lt_digits_iff small less
    have below := digits_lt_digits_iff less small
    rw [same] at above below
    have irrefl := lt_irrefl (digits width other)
    exact le_antisymm (not_lt.mp (mt below.mpr irrefl))
      (not_lt.mp (mt above.mpr irrefl))
  · rintro rfl
    rfl

private theorem digit_range {char : Char} (member : char ∈ digits width value) :
    '0' ≤ char ∧ char ≤ '9' := by
  induction width generalizing value with
  | zero => cases member
  | succ width ih =>
      rcases List.mem_cons.mp member with rfl | member
      · have code := toNat_digit (value / 10 ^ width)
        constructor
        · rw [Char.le_def, UInt32.le_iff_toNat_le]
          change 0x30 ≤ (digit (value / 10 ^ width)).toNat
          omega
        · rw [Char.le_def, UInt32.le_iff_toNat_le]
          change (digit (value / 10 ^ width)).toNat ≤ 0x39
          omega
      · exact ih member

/-- A fraction of so many digits, without its trailing zeros. -/
def trimmedDigits (width value : ℕ) : List Char :=
  (digits width value).rdropWhile (· == '0')

theorem trimmedDigits_append (width value : ℕ) :
    trimmedDigits width value ++
        List.replicate (width - (trimmedDigits width value).length) '0' =
      digits width value := by
  have whole : (digits width value).rdropWhile (· == '0') ++
      (digits width value).rtakeWhile (· == '0') = digits width value :=
    List.rdropWhile_append_rtakeWhile
  have zeros : (digits width value).rtakeWhile (· == '0') =
      List.replicate
        ((digits width value).rtakeWhile (· == '0')).length '0' := by
    apply List.eq_replicate_length.mpr
    intro char member
    have zero := List.mem_rtakeWhile_imp member
    exact eq_of_beq zero
  have total := congrArg List.length whole
  rw [List.length_append, length_digits] at total
  have rest : width - (trimmedDigits width value).length =
      ((digits width value).rtakeWhile (· == '0')).length := by
    rw [trimmedDigits]
    omega
  rw [rest, ← zeros]
  exact whole

theorem length_trimmedDigits_le (width value : ℕ) :
    (trimmedDigits width value).length ≤ width := by
  have shorter := (List.rdropWhile_prefix (· == '0')
    (digits width value)).length_le
  rwa [length_digits] at shorter

theorem getLast?_trimmedDigits (width value : ℕ) :
    (trimmedDigits width value).getLast? ≠ some '0' := by
  intro last
  obtain ⟨nonempty, same⟩ := List.mem_getLast?_eq_getLast last
  have kept := List.rdropWhile_last_not (· == '0') (digits width value) nonempty
  simp only [beq_iff_eq] at kept
  exact kept same.symm

theorem trimmedDigit_range {char : Char}
    (member : char ∈ trimmedDigits width value) :
    '0' ≤ char ∧ char ≤ '9' :=
  digit_range ((List.rdropWhile_prefix _ _).subset member)

/-- Fractions that end in a letter are ordered as text like their values,
unless one's digits begin the other's. -/
theorem trimmedDigits_lt_iff {top : Char} (above : '9' < top)
    (small : value < 10 ^ width) (less : other < 10 ^ width) :
    (trimmedDigits width value ++ [top] < trimmedDigits width other ++ [top] ↔
        value < other) ↔
      ¬ (trimmedDigits width value ≠ trimmedDigits width other ∧
        (trimmedDigits width value <+: trimmedDigits width other ∨
          trimmedDigits width other <+: trimmedDigits width value)) := by
  have inside (char : Char) (member : char ∈ trimmedDigits width value ++
      trimmedDigits width other) : '0' ≤ char ∧ char < top := by
    have range : '0' ≤ char ∧ char ≤ '9' := by
      rcases List.mem_append.mp member with left | right
      · exact trimmedDigit_range left
      · exact trimmedDigit_range right
    exact ⟨range.1, range.2.trans_lt above⟩
  have first := length_trimmedDigits_le width value
  have second := length_trimmedDigits_le width other
  have padded := @ended_lt_iff_padded Char _ '0' top _ _ _ _ inside
    (getLast?_trimmedDigits width value) (getLast?_trimmedDigits width other)
    (by omega : _ + (width - (trimmedDigits width value).length) =
      _ + (width - (trimmedDigits width other).length))
  rwa [trimmedDigits_append, trimmedDigits_append,
    digits_lt_digits_iff small less] at padded

end JwSwarm.Data.Decimals
