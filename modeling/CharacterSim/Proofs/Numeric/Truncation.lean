import CharacterSim.Proofs.Numeric.Amount
import CharacterSim.Proofs.Numeric.FixedPoint

/-! The fixed-point count of any amount whatever. Scaling by 256 is exact, for short mantissas with the
least exponent too, so the count is that of the amount itself, cut toward zero and held within 32
bits. -/

namespace CharacterSim.Amount

open Float.Model (Format UnpackedFloat totalExponent)
open Float.Model.UnpackedFloat hiding round normalize

variable {sign : Sign} {mantissa : Nat} {exponent : Int} {amount : Float}

/-- A number cut toward zero. -/
def cut (number : ℚ) : ℤ := if number < 0 then ⌈number⌉ else ⌊number⌋

/-- The 256ths of an amount, cut toward zero and held within 32 signed bits; zero for no number. -/
def count256 (amount : Float) : ℤ :=
  match value? amount with
  | some number => max (-2147483648) (min (cut (number * 256)) 2147483647)
  | none => if amount.isNaN then 0 else if 0.0 < amount then 2147483647 else -2147483648

/-! ### Cutting toward zero -/

theorem mantissa_shiftToExponent (mantissa : Nat) (exponent target : Int) :
    (shiftToExponent mantissa exponent .exact target).1.mantissa =
      mantissa / 2 ^ (target - exponent).toNat :=
  mantissa_shiftRight ⟨mantissa, false, false⟩ _

/-- What stands behind the point is cut off. -/
theorem roundToInt_eq (sign : Sign) (mantissa : Nat) (exponent : Int) :
    roundToInt sign mantissa exponent = sign.apply ⌊(mantissa * 2 ^ exponent : ℚ)⌋₊ := by
  have hcut : roundToInt sign mantissa exponent = sign.apply
      ((mantissa * 2 ^ (exponent - 0).toNat) /
        2 ^ (0 - (exponent - (exponent - 0).toNat)).toNat : Nat) := by
    rw [roundToInt, decreaseExponent]
    dsimp only
    rw [mantissa_shiftToExponent, Nat.shiftLeft_eq]
  rw [hcut]
  congr 2
  rcases Int.eq_nat_or_neg exponent with ⟨places, rfl | rfl⟩
  · have hplaces : ((places : Int) - 0).toNat = places := by omega
    have hnone : (0 - ((places : Int) - places)).toNat = 0 := by omega
    have hwhole : (mantissa * 2 ^ (places : Int) : ℚ) = (mantissa * 2 ^ places : Nat) := by
      push_cast
      rw [zpow_natCast]
    rw [hplaces, hnone, hwhole, Nat.floor_natCast, Nat.pow_zero, Nat.div_one]
  · have hnone : (-(places : Int) - 0).toNat = 0 := by omega
    have hplaces : (0 - (-(places : Int) - (0 : Nat))).toNat = places := by omega
    have hquotient : (mantissa * 2 ^ (-(places : Int)) : ℚ) = mantissa / (2 ^ places : Nat) := by
      push_cast
      rw [zpow_neg, zpow_natCast, div_eq_mul_inv]
    rw [hnone, hplaces, hquotient, Nat.floor_div_eq_div, Nat.pow_zero, Nat.mul_one]

theorem cut_apply (sign : Sign) (mantissa : Nat) {scale : ℚ} (h : 0 ≤ scale) :
    cut (sign.apply mantissa * scale) = sign.apply ⌊mantissa * scale⌋₊ := by
  have hsize : 0 ≤ mantissa * scale := mul_nonneg (Nat.cast_nonneg mantissa) h
  have hfloor : ((⌊mantissa * scale⌋₊ : Nat) : ℤ) = ⌊mantissa * scale⌋ :=
    Int.natCast_floor_eq_floor hsize
  cases sign with
  | positive =>
    show cut ((mantissa : ℤ) * scale) = (⌊mantissa * scale⌋₊ : ℤ)
    rw [Int.cast_natCast, cut, if_neg (not_lt.2 hsize), hfloor]
  | negative =>
    show cut ((-(mantissa : ℤ) : ℤ) * scale) = -(⌊mantissa * scale⌋₊ : ℤ)
    rw [Int.cast_neg, Int.cast_natCast, neg_mul, cut, hfloor]
    split
    · rw [Int.ceil_neg]
    · next hnonneg =>
      have hzero : mantissa * scale = 0 := by linarith
      rw [hzero, neg_zero, Int.floor_zero, neg_zero]

theorem toInt_ofIntClamp (number : ℤ) :
    (Int32.ofIntClamp number).toInt = max (-2147483648) (min number 2147483647) := by
  have hleast : Int32.minValue.toInt = -2147483648 := rfl
  have hmost : Int32.maxValue.toInt = 2147483647 := rfl
  unfold Int32.ofIntClamp
  split
  · split
    · rw [Int32.toInt_ofIntLE]
      omega
    · omega
  · omega

/-- The count of an amount in canonical form; one that is too large is as good as an infinite one. -/
theorem Canonical.toInt_toInt32 (h : Canonical mantissa exponent) (sign : Sign) :
    (Float.Model.pack (.finite sign mantissa exponent h.pos)).toInt32.toInt =
      max (-2147483648) (min (cut (sign.apply mantissa * 2 ^ exponent)) 2147483647) := by
  have hcount : cut (sign.apply mantissa * 2 ^ exponent) =
      sign.apply ⌊(mantissa * 2 ^ exponent : ℚ)⌋₊ := cut_apply sign mantissa (by positivity)
  show (Int32.ofIntClamp ((Float.Model.pack _).unpack.toInt _ _)).toInt = _
  rw [h.unpack_pack, hcount]
  split
  · rw [toInt_ofIntClamp]
    exact congrArg (fun count => max _ (min count _)) (roundToInt_eq sign mantissa exponent)
  · next hlarge =>
    have hsize : 2 ^ 31 ≤ ⌊(mantissa * 2 ^ exponent : ℚ)⌋₊ := by
      refine Nat.le_floor ?_
      have hmantissa : (1 : ℚ) ≤ mantissa := by exact_mod_cast h.pos
      have hscale : (2 : ℚ) ^ (31 : ℤ) ≤ 2 ^ exponent := zpow_le_zpow_right₀ one_le_two (by omega)
      calc ((2 ^ 31 : Nat) : ℚ) = 1 * 2 ^ (31 : ℤ) := by norm_num
        _ ≤ mantissa * 2 ^ exponent := by gcongr
    rw [toInt_ofIntClamp]
    generalize ⌊(mantissa * 2 ^ exponent : ℚ)⌋₊ = size at hsize
    cases sign with
    | positive =>
      show max (-2147483648) (min Int32.maxValue.toInt 2147483647) =
        max (-2147483648) (min (size : ℤ) 2147483647)
      have hmost : Int32.maxValue.toInt = 2147483647 := rfl
      omega
    | negative =>
      show max (-2147483648) (min Int32.minValue.toInt 2147483647) =
        max (-2147483648) (min (-(size : ℤ)) 2147483647)
      have hleast : Int32.minValue.toInt = -2147483648 := rfl
      omega

/-! ### Scaling -/

/-- Of the eight digits that a factor of 256 adds, a short mantissa takes up those it has room for. -/
theorem Canonical.scaled (h : Canonical mantissa exponent) :
    Canonical (mantissa * 2 ^ min (52 - mantissa.log2) 8)
      (exponent + 8 - (min (52 - mantissa.log2) 8 : Nat)) := by
  have hne : mantissa ≠ 0 := h.pos.ne'
  have hlog : mantissa.log2 ≤ 52 := Nat.le_of_lt_succ ((Nat.log2_lt hne).2 h.short)
  have hfull : mantissa.log2 = 52 ∨ exponent = -1074 :=
    h.full_or_least.imp_left fun hfull => Nat.le_antisymm hlog ((Nat.le_log2 hne).2 hfull)
  have hleast := h.least
  generalize hcount : min (52 - mantissa.log2) 8 = count
  have hscaled : mantissa * 2 ^ count ≠ 0 := Nat.mul_ne_zero hne (Nat.two_pow_pos count).ne'
  have hlength : (mantissa * 2 ^ count).log2 = mantissa.log2 + count := log2_mul_two_pow hne count
  refine ⟨Nat.pos_of_ne_zero hscaled, (Nat.log2_lt hscaled).1 (by omega), by omega, ?_⟩
  rw [← Nat.le_log2 hscaled]
  omega

theorem toInt_toFixedPoint_of_finite {hpos}
    (hamount : amount.toModel.unpack = .finite sign mantissa exponent hpos) :
    (toFixedPoint amount).toInt =
      max (-2147483648) (min (cut (sign.apply mantissa * 2 ^ exponent * 256)) 2147483647) := by
  have h := canonical_of_unpack hamount
  have hlog : mantissa.log2 ≤ 52 := Nat.le_of_lt_succ ((Nat.log2_lt hpos.ne').2 h.short)
  have hscaled := h.scaled
  generalize hcount : min (52 - mantissa.log2) 8 = count at hscaled
  have hmul : UnpackedFloat.mul .binary64 amount.toModel.unpack fixedPointScale.toModel.unpack =
      roundWithAccuracy .binary64 sign (mantissa * 2 ^ 52) (exponent + -44) .exact := by
    rw [hamount, unpack_fixedPointScale]
    cases sign <;> rfl
  have hmantissa : mantissa * 2 ^ 52 = mantissa * 2 ^ count * 2 ^ (52 - count) := by
    rw [Nat.mul_assoc, ← Nat.pow_add]
    congr 2
    omega
  have hexponent : exponent + -44 = exponent + 8 - count - (52 - count : Nat) := by omega
  have hvalue : (sign.apply (mantissa * 2 ^ count : Nat) * 2 ^ (exponent + 8 - count) : ℚ) =
      sign.apply mantissa * 2 ^ exponent * 256 := by
    have hsplit : (2 : ℚ) ^ (exponent + 8 - count) * 2 ^ count = 2 ^ exponent * 256 := by
      rw [← zpow_natCast, ← zpow_add₀ two_ne_zero, sub_add_cancel, zpow_add₀ two_ne_zero]
      norm_num
    cases sign with
    | positive =>
      show ((mantissa * 2 ^ count : Nat) : ℤ) * (2 : ℚ) ^ (exponent + 8 - count) =
        (mantissa : ℤ) * 2 ^ exponent * 256
      push_cast
      linear_combination (mantissa : ℚ) * hsplit
    | negative =>
      show (-((mantissa * 2 ^ count : Nat) : ℤ) : ℤ) * (2 : ℚ) ^ (exponent + 8 - count) =
        (-(mantissa : ℤ) : ℤ) * 2 ^ exponent * 256
      push_cast
      linear_combination -(mantissa : ℚ) * hsplit
  have hproduct : (amount * fixedPointScale).toModel =
      .pack (.finite sign (mantissa * 2 ^ count) (exponent + 8 - count) hscaled.pos) := by
    refine congrArg Float.Model.pack (hmul.trans ?_)
    rw [hmantissa, hexponent]
    exact hscaled.roundWithAccuracy_eq sign (52 - count)
  rw [toFixedPoint, hproduct, hscaled.toInt_toInt32, hvalue]

/-- What is sent for an amount is its value in 256ths, cut toward zero and held within 32 bits. -/
theorem toInt_toFixedPoint (amount : Float) : (toFixedPoint amount).toInt = count256 amount := by
  have hproduct : toFixedPoint amount = (Float.Model.pack (UnpackedFloat.mul .binary64
      amount.toModel.unpack fixedPointScale.toModel.unpack)).toInt32 := rfl
  cases hamount : amount.toModel.unpack with
  | notANumber =>
    have hnumber : amount.isNaN = true := (isNaN_iff amount).2 hamount
    rw [count256, value?, hamount]
    dsimp only
    rw [if_pos hnumber, hproduct, hamount]
    decide +kernel
  | infinity sign =>
    have hnumber : amount.isNaN = false := by
      rw [isNaN_eq_false_iff, hamount]
      exact UnpackedFloat.noConfusion
    rw [count256, value?, hamount]
    dsimp only
    rw [hnumber, if_neg Bool.false_ne_true, hproduct, hamount]
    cases sign with
    | negative =>
      have hbelow : ¬ (0.0 : Float) < amount := by
        rw [lt_iff, hamount]
        decide +kernel
      rw [if_neg hbelow]
      decide +kernel
    | positive =>
      have habove : (0.0 : Float) < amount := by
        rw [lt_iff, hamount]
        decide +kernel
      rw [if_pos habove]
      decide +kernel
  | zero sign =>
    have hvalue : value? amount = some 0 := by rw [value?, hamount]
    have hzero : cut (0 * 256) = 0 := by rw [zero_mul, cut, if_neg (lt_irrefl 0), Int.floor_zero]
    rw [count256, hvalue]
    dsimp only
    rw [hzero, hproduct, hamount, toInt32_zero_mul]
    rfl
  | finite sign mantissa exponent hpos =>
    have hvalue : value? amount = some (sign.apply mantissa * 2 ^ exponent : ℚ) := by
      rw [value?, hamount]
    rw [count256, hvalue]
    exact toInt_toFixedPoint_of_finite hamount

/-- The least 256th below zero is cut off, and what is too large for 32 bits is held. -/
example : toFixedPoint (-0.00390624) = 0 ∧ toFixedPoint 1.0e300 = 2147483647 := by decide +kernel

end CharacterSim.Amount
