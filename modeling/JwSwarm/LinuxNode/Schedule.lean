import JwSwarm.Data.NumberText
import JwSwarm.FleetManager.Enrollment

namespace JwSwarm.LinuxNode

open Data.NumberText (parseUnsigned)
open FleetManager.Enrollment (trim)

/-! The hours in which the owner lets the node work. -/

structure Schedule where
  awakeFrom : String
  awakeUntil : String

def splitOnce (text : List Char) : Option (List Char × List Char) :=
  match text.dropWhile (· ≠ ':') with
  | [] => none
  | _ :: after => some (text.takeWhile (· ≠ ':'), after)

def parseHhmm (text : String) : Option ℕ := do
  let (hours, minutes) ← splitOnce (trim text).toList
  let hours ← parseUnsigned 32 hours
  let minutes ← parseUnsigned 32 minutes
  if 23 < hours ∨ 59 < minutes then none else some (hours * 60 + minutes)

def Schedule.isAwake (schedule : Schedule) (hour minute : ℕ) : Bool :=
  match parseHhmm schedule.awakeFrom, parseHhmm schedule.awakeUntil with
  | some opens, some closes =>
      let now := hour * 60 + minute
      if opens = closes then true
      else if opens < closes then decide (opens ≤ now ∧ now < closes)
      else decide (opens ≤ now ∨ now < closes)
  | _, _ => true

def Schedule.swap (schedule : Schedule) : Schedule where
  awakeFrom := schedule.awakeUntil
  awakeUntil := schedule.awakeFrom

/-- The minutes from the one time to the other, which may be on the next day. -/
def Schedule.minutes (schedule : Schedule) : ℕ :=
  match parseHhmm schedule.awakeFrom, parseHhmm schedule.awakeUntil with
  | some opens, some closes =>
      if opens = closes then 1440 else (closes + 1440 - opens) % 1440
  | _, _ => 1440

variable {schedule : Schedule} {opens closes hour minute : ℕ} {text : String}

theorem parseHhmm_lt (parsed : parseHhmm text = some opens) :
    opens < 1440 := by
  simp only [parseHhmm, Option.bind_eq_bind, Option.bind_eq_some_iff] at parsed
  obtain ⟨⟨before, after⟩, -, hours, -, minutes, -, parsed⟩ := parsed
  split at parsed
  · cases parsed
  · next small =>
      obtain rfl := Option.some.inj parsed
      omega

private theorem countP_range_between (count : ℕ) :
    (List.range count).countP (fun now => decide (opens ≤ now ∧ now < closes)) =
      min count closes - opens := by
  induction count with
  | zero => simp
  | succ count ih =>
      rw [List.range_succ, List.countP_append, ih, List.countP_singleton]
      split
      · next inside =>
          have := of_decide_eq_true inside
          omega
      · next outside =>
          have : ¬ (opens ≤ count ∧ count < closes) :=
            fun inside => outside (decide_eq_true inside)
          omega

private theorem countP_range_around (wraps : closes ≤ opens) (count : ℕ) :
    (List.range count).countP (fun now => decide (opens ≤ now ∨ now < closes)) =
      min count closes + (count - opens) := by
  induction count with
  | zero => simp
  | succ count ih =>
      rw [List.range_succ, List.countP_append, ih, List.countP_singleton]
      split
      · next inside =>
          have := of_decide_eq_true inside
          omega
      · next outside =>
          have : ¬ (opens ≤ count ∨ count < closes) :=
            fun inside => outside (decide_eq_true inside)
          omega

theorem isAwake_of_parsed (opened : parseHhmm schedule.awakeFrom = some opens)
    (closed : parseHhmm schedule.awakeUntil = some closes) :
    schedule.isAwake hour minute =
      if opens = closes then true
      else if opens < closes then
        decide (opens ≤ hour * 60 + minute ∧ hour * 60 + minute < closes)
      else
        decide (opens ≤ hour * 60 + minute ∨ hour * 60 + minute < closes) := by
  rw [Schedule.isAwake, opened, closed]

theorem minutes_of_parsed (opened : parseHhmm schedule.awakeFrom = some opens)
    (closed : parseHhmm schedule.awakeUntil = some closes) :
    schedule.minutes =
      if opens = closes then 1440 else (closes + 1440 - opens) % 1440 := by
  rw [Schedule.minutes, opened, closed]

theorem unbounded_of_unparsed
    (unparsed : parseHhmm schedule.awakeFrom = none ∨
      parseHhmm schedule.awakeUntil = none) :
    schedule.minutes = 1440 ∧ ∀ hour minute,
      schedule.isAwake hour minute = true := by
  unfold Schedule.minutes Schedule.isAwake
  rcases unparsed with missing | missing
  · rw [missing]
    exact ⟨rfl, fun _ _ => rfl⟩
  · rw [missing]
    cases parseHhmm schedule.awakeFrom with
    | none => exact ⟨rfl, fun _ _ => rfl⟩
    | some opens => exact ⟨rfl, fun _ _ => rfl⟩

private theorem countP_awake
    (opened : parseHhmm schedule.awakeFrom = some opens)
    (closed : parseHhmm schedule.awakeUntil = some closes) :
    (List.range 1440).countP
        (fun now => schedule.isAwake (now / 60) (now % 60)) =
      schedule.minutes := by
  have opensBound := parseHhmm_lt opened
  have closesBound := parseHhmm_lt closed
  simp only [isAwake_of_parsed opened closed, minutes_of_parsed opened closed,
    Nat.div_add_mod']
  rcases Nat.lt_trichotomy opens closes with less | rfl | greater
  · have between := @countP_range_between opens closes 1440
    simp only [less.ne, less, if_true, if_false]
    omega
  · simp
  · have around := countP_range_around greater.le 1440
    simp only [greater.ne', greater.not_gt, if_false]
    omega

private theorem isAwake_swap
    (opened : parseHhmm schedule.awakeFrom = some opens)
    (closed : parseHhmm schedule.awakeUntil = some closes)
    (different : opens ≠ closes) :
    schedule.swap.isAwake hour minute = !schedule.isAwake hour minute := by
  rw [isAwake_of_parsed opened closed,
    @isAwake_of_parsed schedule.swap closes opens _ _ closed opened]
  rcases Nat.lt_or_gt_of_ne different with less | greater
  · simp only [different, different.symm, less, less.not_gt, if_true, if_false]
    simp only [← decide_not, decide_eq_decide]
    omega
  · simp only [different, different.symm, greater, greater.not_gt, if_true,
      if_false]
    simp only [← decide_not, decide_eq_decide]
    omega

/-- The node is awake for as many minutes of a day as lie between the two
times, and with the times swapped in all the others. -/
theorem awake_minutes (schedule : Schedule) :
    (List.range 1440).countP
        (fun now => schedule.isAwake (now / 60) (now % 60)) =
      schedule.minutes ∧
    (schedule.minutes < 1440 → ∀ hour minute,
      schedule.swap.isAwake hour minute = !schedule.isAwake hour minute) := by
  cases opened : parseHhmm schedule.awakeFrom with
  | none =>
      obtain ⟨whole, always⟩ := unbounded_of_unparsed (.inl opened)
      simp [whole, always]
  | some opens =>
      cases closed : parseHhmm schedule.awakeUntil with
      | none =>
          obtain ⟨whole, always⟩ := unbounded_of_unparsed (.inr closed)
          simp [whole, always]
      | some closes =>
          refine ⟨countP_awake opened closed, fun bounded hour minute => ?_⟩
          apply isAwake_swap opened closed
          rintro rfl
          rw [minutes_of_parsed opened closed, if_pos rfl] at bounded
          exact absurd bounded (Nat.lt_irrefl _)

/-- A window over midnight. -/
theorem awake_minutes_overnight :
    (Schedule.mk "22:00" " 6:30 ").minutes = 510 ∧
      ∀ hour minute, (Schedule.mk " 6:30 " "22:00").isAwake hour minute =
        !(Schedule.mk "22:00" " 6:30 ").isAwake hour minute := by
  have length : (Schedule.mk "22:00" " 6:30 ").minutes = 510 := by
    decide +kernel
  exact ⟨length,
    (awake_minutes (.mk "22:00" " 6:30 ")).2 (by rw [length]; omega)⟩

end JwSwarm.LinuxNode
