import CharacterSim.Numeric.Amount
import Mathlib

/-! The order of amounts. Two numbers always compare, also where one is infinite, and the other way
round they compare the opposite way; what is no number compares with nothing. -/

namespace CharacterSim.Amount

open Float.Model (UnpackedFloat)

theorem le_iff (first second : Float) :
    first ≤ second ↔ first.toModel.unpack.le second.toModel.unpack = true := by
  show decide (first.toModel ≤ second.toModel) = true ↔ _
  rw [decide_eq_true_iff]
  rfl

theorem lt_iff (first second : Float) :
    first < second ↔ first.toModel.unpack.lt second.toModel.unpack = true := by
  show decide (first.toModel < second.toModel) = true ↔ _
  rw [decide_eq_true_iff]
  rfl

theorem isNaN_iff (amount : Float) : amount.isNaN = true ↔ amount.toModel.unpack = .notANumber :=
  UnpackedFloat.isNaN_iff

theorem isNaN_eq_false_iff (amount : Float) :
    amount.isNaN = false ↔ amount.toModel.unpack ≠ .notANumber := by
  rw [Bool.eq_false_iff, ne_eq, isNaN_iff]

theorem compare_swap (first second : UnpackedFloat) :
    second.compare first = (first.compare second).map Ordering.swap := by
  have hfinite : ∀ (exponent exponent' : Int) (mantissa mantissa' : Nat),
      (compare exponent' exponent).then (compare mantissa' mantissa) =
        ((compare exponent exponent').then (compare mantissa mantissa')).swap := by
    intro exponent exponent' mantissa mantissa'
    rw [Ordering.swap_then, ← Int.compare_swap, ← Nat.compare_swap]
  cases first with
  | notANumber => cases second <;> rfl
  | infinity sign =>
    cases second with
    | notANumber => rfl
    | infinity other => cases sign <;> cases other <;> rfl
    | zero other => cases sign <;> rfl
    | finite other => cases sign <;> rfl
  | zero sign =>
    cases second with
    | notANumber => rfl
    | infinity other => cases other <;> rfl
    | zero other => rfl
    | finite other => cases other <;> rfl
  | finite sign mantissa exponent hpos =>
    cases second with
    | notANumber => rfl
    | infinity other => cases other <;> rfl
    | zero other => cases sign <;> rfl
    | finite other mantissa' exponent' hpos' =>
      cases sign <;> cases other <;> first | rfl | skip
      · exact congrArg (fun ordering => some ordering.swap) (hfinite ..)
      · exact congrArg some (hfinite ..)

theorem compare_eq_none_iff (first second : UnpackedFloat) :
    first.compare second = none ↔ first = .notANumber ∨ second = .notANumber := by
  cases first with
  | notANumber => exact iff_of_true (by cases second <;> rfl) (.inl rfl)
  | infinity sign =>
    cases second with
    | notANumber => exact iff_of_true rfl (.inr rfl)
    | infinity other => exact iff_of_false nofun nofun
    | zero other => cases sign <;> exact iff_of_false nofun nofun
    | finite other => cases sign <;> exact iff_of_false nofun nofun
  | zero sign =>
    cases second with
    | notANumber => exact iff_of_true rfl (.inr rfl)
    | infinity other => cases other <;> exact iff_of_false nofun nofun
    | zero other => exact iff_of_false nofun nofun
    | finite other => cases other <;> exact iff_of_false nofun nofun
  | finite sign mantissa exponent hpos =>
    cases second with
    | notANumber => exact iff_of_true rfl (.inr rfl)
    | infinity other => cases other <;> exact iff_of_false nofun nofun
    | zero other => cases sign <;> exact iff_of_false nofun nofun
    | finite other => cases sign <;> cases other <;> exact iff_of_false nofun nofun

variable {first second : Float}

/-- What is at most something is a number, and so is that. -/
theorem isNaN_of_le (h : first ≤ second) : first.isNaN = false ∧ second.isNaN = false := by
  rw [le_iff, UnpackedFloat.le] at h
  have hnumbers : ¬ (first.toModel.unpack = .notANumber ∨ second.toModel.unpack = .notANumber) := by
    rw [← compare_eq_none_iff]
    intro hnone
    rw [hnone] at h
    cases h
  rw [isNaN_eq_false_iff, isNaN_eq_false_iff]
  exact not_or.1 hnumbers

/-- Of two numbers one is below the other or the other at most that one. -/
theorem le_of_not_lt (hfirst : first.isNaN = false) (hsecond : second.isNaN = false)
    (h : ¬ first < second) : second ≤ first := by
  rw [lt_iff, UnpackedFloat.lt] at h
  rw [le_iff, UnpackedFloat.le, compare_swap]
  cases hcompare : first.toModel.unpack.compare second.toModel.unpack with
  | none =>
    rw [compare_eq_none_iff, ← isNaN_iff, ← isNaN_iff, hfirst, hsecond] at hcompare
    simp at hcompare
  | some ordering =>
    rw [hcompare] at h
    cases ordering with
    | lt => exact absurd rfl h
    | eq => rfl
    | gt => rfl

theorem le_of_lt (h : first < second) : first ≤ second := by
  rw [lt_iff, UnpackedFloat.lt] at h
  rw [le_iff, UnpackedFloat.le, eq_of_beq h]
  rfl

theorem not_lt_self (amount : Float) : ¬ amount < amount := by
  rw [lt_iff, UnpackedFloat.lt]
  intro hbelow
  have hlt := eq_of_beq hbelow
  have hswapped := compare_swap amount.toModel.unpack amount.toModel.unpack
  rw [hlt] at hswapped
  cases hswapped

theorem le_self {amount : Float} (h : amount.isNaN = false) : amount ≤ amount :=
  le_of_not_lt h h (not_lt_self amount)

/-- Every number is at most infinite. -/
theorem le_of_infinite (hsecond : second.toModel.unpack = .infinity .positive)
    (hnumber : first.isNaN = false) : first ≤ second := by
  rw [le_iff, hsecond]
  cases hunpack : first.toModel.unpack with
  | notANumber => exact absurd hunpack ((isNaN_eq_false_iff first).1 hnumber)
  | infinity sign => cases sign <;> rfl
  | zero sign => rfl
  | finite sign => cases sign <;> rfl

theorem not_lt_of_le (h : first ≤ second) : ¬ second < first := by
  rw [le_iff, UnpackedFloat.le, compare_swap] at h
  rw [lt_iff, UnpackedFloat.lt]
  intro hbelow
  rw [eq_of_beq hbelow] at h
  cases h

theorem le_of_beq (h : (first == second) = true) : first ≤ second := by
  have hcompare : (first.toModel.unpack.compare second.toModel.unpack == some .eq) = true := h
  rw [le_iff, UnpackedFloat.le, eq_of_beq hcompare]
  rfl

theorem beq_of_le_of_not_lt (h : first ≤ second) (hnot : ¬ first < second) :
    (first == second) = true := by
  rw [le_iff, UnpackedFloat.le] at h
  rw [lt_iff, UnpackedFloat.lt] at hnot
  show first.toModel.unpack.compare second.toModel.unpack == some .eq
  cases hcompare : first.toModel.unpack.compare second.toModel.unpack with
  | none =>
    rw [hcompare] at h
    cases h
  | some ordering =>
    rw [hcompare] at h hnot
    cases ordering with
    | lt => exact absurd rfl hnot
    | eq => rfl
    | gt => cases h

theorem beq_self {amount : Float} (h : amount.isNaN = false) : (amount == amount) = true :=
  beq_of_le_of_not_lt (le_self h) (not_lt_self amount)

/-- Amounts that are at most one another are the same number. -/
theorem beq_of_le_of_le (h : first ≤ second) (hback : second ≤ first) : (first == second) = true :=
  beq_of_le_of_not_lt h (not_lt_of_le hback)

end CharacterSim.Amount
