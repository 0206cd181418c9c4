import CharacterSim.Numeric.Amount

/-! Amounts that compare as the same number travel as the same fixed-point count, although the two
zeros are different amounts. -/

namespace CharacterSim.Amount

open Float.Model (UnpackedFloat)
open Float.Model.UnpackedFloat (Sign)

/-- What compares as equal is equal, or is zero on both sides. -/
theorem eq_or_zero_of_beq {first second : UnpackedFloat} (h : first.beq second = true) :
    first = second ∨ ∃ sign other, first = .zero sign ∧ second = .zero other := by
  have hcompare : first.compare second = some .eq := eq_of_beq h
  cases first with
  | notANumber => cases hcompare
  | infinity sign =>
    left
    cases second with
    | infinity other => cases sign <;> cases other <;> first | rfl | cases hcompare
    | _ => cases sign <;> cases hcompare
  | zero sign =>
    cases second with
    | notANumber => cases hcompare
    | zero other => exact .inr ⟨sign, other, rfl, rfl⟩
    | infinity other => cases other <;> cases hcompare
    | finite other => cases other <;> cases hcompare
  | finite sign mantissa exponent hpos =>
    left
    cases second with
    | notANumber => cases hcompare
    | infinity other => cases other <;> cases hcompare
    | zero other => cases sign <;> cases hcompare
    | finite other mantissa' exponent' hpos' =>
      obtain rfl : sign = other := by
        cases sign <;> cases other <;> first | rfl | cases hcompare
      have hsame : (compare exponent exponent').then (compare mantissa mantissa') = .eq := by
        cases sign with
        | positive => exact Option.some.inj hcompare
        | negative => exact Ordering.swap_eq_eq.1 (Option.some.inj hcompare)
      obtain ⟨hexponent, hmantissa⟩ := Ordering.then_eq_eq.1 hsame
      obtain rfl := Std.LawfulEqOrd.eq_of_compare hexponent
      obtain rfl := Std.LawfulEqOrd.eq_of_compare hmantissa
      rfl

/-- The count of an amount that is zero on either side. -/
theorem toInt32_zero_mul (sign : Sign) :
    (Float.Model.pack (UnpackedFloat.mul .binary64 (.zero sign)
      fixedPointScale.toModel.unpack)).toInt32 = 0 := by
  cases sign <;> decide +kernel

theorem toFixedPoint_eq_of_beq {first second : Float} (h : (first == second) = true) :
    toFixedPoint first = toFixedPoint second := by
  have hmul : ∀ amount : Float, toFixedPoint amount =
      (Float.Model.pack (UnpackedFloat.mul .binary64 amount.toModel.unpack
        fixedPointScale.toModel.unpack)).toInt32 := fun _ => rfl
  rw [hmul, hmul]
  rcases eq_or_zero_of_beq h with heq | ⟨sign, other, hfirst, hsecond⟩
  · rw [heq]
  · rw [hfirst, hsecond, toInt32_zero_mul, toInt32_zero_mul]

end CharacterSim.Amount
