import Mathlib.Algebra.Ring.Int.Defs
import Mathlib.Algebra.Ring.Nat
import Mathlib.Data.Nat.Notation
import Mathlib.Data.Int.Notation

namespace JwSwarm

/-! The space checks that the three nodes make before a download. Each compares
an artifact's size and a headroom with what the volume reports as available. -/

/-- The macOS node has an error case of its own, the others a message. -/
inductive DiskError where
  | message (text : String)
  | insufficientDiskSpace (requiredBytes availableBytes : UInt64)
  deriving DecidableEq

inductive Preflight where
  | proceeds
  | refuses (error : DiskError)
  | traps
  deriving DecidableEq

def headroom : ℕ := 64 * 1024 * 1024

/-- What a check over the integers may answer; an artifact of size 0 need not be
checked. -/
def Preflight.Exact (size available : ℕ) : Preflight → Prop
  | .proceeds => size = 0 ∨ size + headroom ≤ available
  | .refuses _ => available < size + headroom
  | .traps => False

namespace LinuxNode

/-- `ensure_disk_space`; a build with overflow checks panics where another one
wraps around. -/
def ensureDiskSpace (overflowChecks : Bool) (available requiredBytes : UInt64) :
    Preflight :=
  let headroom : UInt64 := 64 * 1024 * 1024
  if overflowChecks ∧ 2 ^ 64 ≤ requiredBytes.toNat + headroom.toNat then .traps
  else if available < requiredBytes + headroom then
    .refuses (.message ("insufficient disk space: need " ++
      toString requiredBytes.toNat ++ " bytes + headroom, have " ++
      toString available.toNat ++ " bytes"))
  else .proceeds

private theorem exact_ensureDiskSpace_iff (overflowChecks : Bool)
    (available size : UInt64) :
    (ensureDiskSpace overflowChecks available size).Exact
        size.toNat available.toNat ↔
      size.toNat + headroom < 2 ^ 64 ∨
        overflowChecks = false ∧
          available.toNat + 2 ^ 64 < size.toNat + headroom := by
  have word := size.toNat_lt
  have other := available.toNat_lt
  have small : headroom = 67108864 := rfl
  unfold ensureDiskSpace
  simp only [UInt64.lt_iff_toNat_lt, UInt64.toNat_add]
  change (if overflowChecks = true ∧ 2 ^ 64 ≤ size.toNat + headroom then _
    else if available.toNat < (size.toNat + headroom) % 2 ^ 64 then _
    else _ : Preflight).Exact _ _ ↔ _
  cases overflowChecks with
  | true =>
      split
      · next trapped =>
          have large := trapped.2
          simp only [Preflight.Exact, Bool.true_eq_false, false_and, or_false,
            false_iff]
          omega
      · next fits =>
          simp only [true_and] at fits
          split
          · simp only [Preflight.Exact]
            omega
          · simp only [Preflight.Exact]
            omega
  | false =>
      rw [if_neg (by simp)]
      split
      · simp only [Preflight.Exact, true_and]
        omega
      · simp only [Preflight.Exact, true_and]
        omega

end LinuxNode

namespace MacNode

/-- `ensureSufficientDiskSpace`; Swift's `+` traps. `available` is what the
volume reports, if anything. -/
def ensureSufficientDiskSpace (available : Option Int64)
    (expectedBytes : UInt64) : Preflight :=
  let diskHeadroomBytes : UInt64 := 64 * 1024 * 1024
  match available with
  | none => .proceeds
  | some availableBytes =>
      if availableBytes ≤ 0 then .proceeds
      else if 2 ^ 64 ≤ expectedBytes.toNat + diskHeadroomBytes.toNat then .traps
      else if availableBytes.toUInt64 < expectedBytes + diskHeadroomBytes then
        .refuses (.insufficientDiskSpace (expectedBytes + diskHeadroomBytes)
          availableBytes.toUInt64)
      else .proceeds

/-- A volume that reports nothing left counts as one that reports nothing. -/
theorem exact_ensureSufficientDiskSpace_iff (available : Int64) (size : UInt64)
    (amount : 0 ≤ available) :
    (ensureSufficientDiskSpace (some available) size).Exact
        size.toNat available.toNatClampNeg ↔
      size = 0 ∨ 0 < available ∧ size.toNat + headroom < 2 ^ 64 := by
  have word := size.toNat_lt
  have other := available.toNatClampNeg_lt
  have small : headroom = 67108864 := rfl
  have zero : size = 0 ↔ size.toNat = 0 := UInt64.toNat_inj.symm
  have positive := available.toNatClampNeg_pos_iff
  unfold ensureSufficientDiskSpace
  simp only [UInt64.lt_iff_toNat_lt, UInt64.toNat_add,
    Int64.toNat_toUInt64_of_le amount, ← Int64.toNatClampNeg_eq_zero_iff, zero,
    ← positive]
  change (if available.toNatClampNeg = 0 then _
    else if 2 ^ 64 ≤ size.toNat + headroom then _
    else if available.toNatClampNeg < (size.toNat + headroom) % 2 ^ 64 then _
    else _ : Preflight).Exact _ _ ↔ _
  split
  · simp only [Preflight.Exact]
    omega
  · split
    · simp only [Preflight.Exact, false_iff]
      omega
    · split
      · simp only [Preflight.Exact]
        omega
      · simp only [Preflight.Exact]
        omega

end MacNode

namespace WindowsNode

/-- `EnsureDiskSpace`, on C#'s unchecked `long`; `available` is what the drive of
`root` reports. -/
def ensureDiskSpace (root : String) (available requiredBytes : Int64) :
    Preflight :=
  let diskHeadroomBytes : Int64 := 64 * 1024 * 1024
  if requiredBytes ≤ 0 then .proceeds
  else
    let needed := requiredBytes + diskHeadroomBytes
    if available < needed then
      .refuses (.message ("insufficient disk space: need " ++
        toString needed.toInt ++ " bytes, " ++ toString available.toInt ++
        " available at " ++ root))
    else .proceeds

def preflight (root : String) (available : Int64) (sizeBytes : UInt64) :
    Preflight :=
  ensureDiskSpace root available sizeBytes.toInt64

theorem bmod_word {value : ℤ} (least : 0 ≤ value)
    (most : value < 18446744073709551616) :
    value.bmod (2 ^ 64) =
      if value < 9223372036854775808 then value
      else value - 18446744073709551616 := by
  change value.bmod 18446744073709551616 = _
  rw [Int.bmod_def]
  omega

private theorem toInt_toInt64 (size : UInt64) :
    size.toInt64.toInt =
      if (size.toNat : ℤ) < 9223372036854775808 then (size.toNat : ℤ)
      else size.toNat - 18446744073709551616 := by
  have word := size.toNat_lt
  have cast := BitVec.toInt_eq_toNat_bmod size.toBitVec
  rw [← bmod_word (by omega) (by omega)]
  exact cast

/-- Sizes from 2^63 on are negative after the cast, and a little below that the
sum is; the check then lets every download proceed. -/
theorem exact_preflight_iff (root : String) (available : Int64)
    (size : UInt64) (amount : 0 ≤ available) :
    (preflight root available size).Exact
        size.toNat available.toNatClampNeg ↔
      size.toNat + headroom < 2 ^ 63 := by
  have word := size.toNat_lt
  have other := available.toNatClampNeg_lt
  have small : headroom = 67108864 := rfl
  have cast := toInt_toInt64 size
  have reported := Int64.cast_toNatClampNeg available amount
  unfold preflight ensureDiskSpace
  simp only [Int64.le_iff_toInt_le, Int64.lt_iff_toInt_lt, Int64.toInt_add]
  generalize size.toInt64.toInt = required at cast ⊢
  change (if required ≤ 0 then _
    else if available.toInt < (required + 67108864).bmod (2 ^ 64) then _
    else _ : Preflight).Exact _ _ ↔ _
  split at cast
  · split
    · simp only [Preflight.Exact]
      omega
    · rw [bmod_word (by omega) (by omega)]
      split
      · split
        · simp only [Preflight.Exact]
          omega
        · simp only [Preflight.Exact]
          omega
      · rw [if_neg (by omega)]
        simp only [Preflight.Exact]
        omega
  · rw [if_pos (by omega)]
    simp only [Preflight.Exact]
    omega

end WindowsNode

/-- Where the checks of the three nodes are exact. -/
theorem exact_preflights_iff (overflowChecks : Bool) (root : String)
    (size linuxAvailable : UInt64) (macAvailable windowsAvailable : Int64)
    (macAmount : 0 ≤ macAvailable) (windowsAmount : 0 ≤ windowsAvailable) :
    ((LinuxNode.ensureDiskSpace overflowChecks linuxAvailable size).Exact
          size.toNat linuxAvailable.toNat ↔
        size.toNat + headroom < 2 ^ 64 ∨
          overflowChecks = false ∧
            linuxAvailable.toNat + 2 ^ 64 < size.toNat + headroom) ∧
      ((MacNode.ensureSufficientDiskSpace (some macAvailable) size).Exact
          size.toNat macAvailable.toNatClampNeg ↔
        size = 0 ∨ 0 < macAvailable ∧ size.toNat + headroom < 2 ^ 64) ∧
      ((WindowsNode.preflight root windowsAvailable size).Exact
          size.toNat windowsAvailable.toNatClampNeg ↔
        size.toNat + headroom < 2 ^ 63) :=
  ⟨LinuxNode.exact_ensureDiskSpace_iff overflowChecks linuxAvailable size,
    MacNode.exact_ensureSufficientDiskSpace_iff macAvailable size macAmount,
    WindowsNode.exact_preflight_iff root windowsAvailable size windowsAmount⟩

/-- An ordinary size, with and without room for it. -/
theorem exact_preflights_ordinary :
    ((LinuxNode.ensureDiskSpace false 5000000000 4683073024).Exact
          4683073024 5000000000 ↔
        4683073024 + headroom < 2 ^ 64 ∨
          false = false ∧ 5000000000 + 2 ^ 64 < 4683073024 + headroom) ∧
      ((MacNode.ensureSufficientDiskSpace (some 4000000000) 4683073024).Exact
          4683073024 4000000000 ↔
        (4683073024 : UInt64) = 0 ∨
          (0 : Int64) < 4000000000 ∧ 4683073024 + headroom < 2 ^ 64) ∧
      ((WindowsNode.preflight "C:" 5000000000 4683073024).Exact
          4683073024 5000000000 ↔
        4683073024 + headroom < 2 ^ 63) :=
  exact_preflights_iff false "C:" 4683073024 5000000000 4000000000 5000000000
    (by decide) (by decide)

/-- With a gigabyte left and the largest size, Linux and Windows let the
download proceed, and macOS traps. -/
theorem largest_size_not_exact :
    let size : UInt64 := 18446744073709551615
    LinuxNode.ensureDiskSpace false 1000000000 size = .proceeds ∧
      MacNode.ensureSufficientDiskSpace (some 1000000000) size = .traps ∧
      WindowsNode.preflight "C:" 1000000000 size = .proceeds ∧
      ¬ Preflight.Exact size.toNat 1000000000 .proceeds ∧
      ¬ Preflight.Exact size.toNat 1000000000 .traps := by
  refine ⟨by decide, by decide, by decide, ?_, fun trapped => trapped⟩
  rintro (zero | room)
  · exact absurd zero (by decide)
  · exact absurd room (by decide)

end JwSwarm
