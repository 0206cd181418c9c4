import CharacterSim.Proofs.Numeric.Canonical

/-! What is left of an amount when another is taken from it, but not less than zero. The difference is
rounded, yet never to more than there was: an amount rounds to itself, and rounding keeps order. -/

namespace CharacterSim.Amount

open Float.Model (Format UnpackedFloat totalExponent)
open Float.Model.UnpackedFloat hiding round normalize

variable {mantissa size count : Nat} {exponent low : Int} {amount first second : Float}

/-! ### Rounding keeps order -/

/-- What was rounded is zero, or in canonical form and at most an amount. -/
def AtMost (rounded : UnpackedFloat) (mantissa : Nat) (exponent : Int) : Prop :=
  rounded = .zero .positive ∨ ∃ short final, ∃ h : Canonical short final,
    rounded = .finite .positive short final h.pos ∧
      (final < exponent ∨ final = exponent ∧ short ≤ mantissa)

theorem Canonical.roundWithAccuracy_atMost (h : Canonical mantissa exponent) {target : Int}
    (htarget : Format.binary64.targetExponent (totalExponent size (target - count)) = target)
    (hpos : size ≠ 0) (hlow : target - count ≤ exponent)
    (hle : size ≤ mantissa * 2 ^ (exponent - (target - count)).toNat) :
    AtMost (roundWithAccuracy .binary64 .positive size (target - count) .exact) mantissa
      exponent := by
  have hdigits : max (size.log2 + (target - count) - 52) (-1074) = target :=
    Amount.targetExponent_eq.symm.trans htarget
  have hleast : -1074 ≤ target := by omega
  have hlength : size.log2 < 53 + (exponent - (target - count)).toNat := by
    rw [Nat.log2_lt hpos, Nat.pow_add]
    exact hle.trans_lt (Nat.mul_lt_mul_of_pos_right h.short (Nat.two_pow_pos _))
  have hexponent := h.least
  have hlater : target ≤ exponent := by omega
  have hsize : size ≤ 2 ^ 53 * 2 ^ count := by
    rw [← Nat.pow_add]
    exact Nat.le_of_lt ((Nat.log2_lt hpos).1 (by omega))
  obtain ⟨rounded, hrounded⟩ : ∃ rounded, ((⟨size, false, false⟩ : ExtendedMantissa) >>>
    count).roundedMantissa = rounded := ⟨_, rfl⟩
  have hmost : rounded ≤ 2 ^ 53 := hrounded ▸ roundedMantissa_le hsize
  -- either the digits fill a whole mantissa, or they are those of the least exponent
  have hfull : 2 ^ 52 ≤ rounded ∨ target = -1074 := by
    by_cases hleastTarget : target = -1074
    · exact .inr hleastTarget
    · have hlog : size.log2 = 52 + count := by omega
      exact .inl (hrounded ▸ le_roundedMantissa hlog)
  have hsame : target = exponent → rounded ≤ mantissa := by
    intro heq
    have hcount : (exponent - (target - count)).toNat = count := by omega
    rw [hcount] at hle
    exact hrounded ▸ roundedMantissa_le hle
  have hshort := h.short
  rw [roundWithAccuracy_of_rounded .positive hleast htarget hrounded hmost]
  split
  · exact .inl rfl
  · next hzero =>
    split
    · next hfits =>
      refine .inr ⟨rounded, target, ⟨Nat.pos_of_ne_zero hzero, hfits, hleast, hfull⟩, rfl, ?_⟩
      rcases Int.lt_or_eq_of_le hlater with hlt | heq
      · exact .inl hlt
      · exact .inr ⟨heq, hsame heq⟩
    · next hcarry =>
      have hne : target ≠ exponent := fun heq => hcarry ((hsame heq).trans_lt hshort)
      have hmantissa : target + 1 = exponent → 2 ^ 52 ≤ mantissa := fun hnext =>
        h.full_or_least.resolve_right (by omega)
      refine .inr ⟨2 ^ 52, target + 1, ⟨by decide, by decide, by omega, .inl (Nat.le_refl _)⟩, rfl, ?_⟩
      omega

/-- What is at most an amount is rounded to at most this. -/
theorem Canonical.round_atMost (h : Canonical mantissa exponent) (hpos : size ≠ 0)
    (hlow : low ≤ exponent) (hle : size ≤ mantissa * 2 ^ (exponent - low).toNat) :
    AtMost (UnpackedFloat.round .binary64 .positive size low) mantissa exponent := by
  obtain ⟨target, htarget⟩ : ∃ target, Format.binary64.targetExponent (totalExponent size low) =
    target := ⟨_, rfl⟩
  obtain ⟨places, hplaces⟩ : ∃ places, (low - target).toNat = places := ⟨_, rfl⟩
  obtain ⟨count, hcount⟩ : ∃ count : Nat, low - places = target - count :=
    ⟨(target - (low - places)).toNat, by omega⟩
  have hround : UnpackedFloat.round .binary64 .positive size low =
      roundWithAccuracy .binary64 .positive (size * 2 ^ places) (target - count) .exact := by
    rw [UnpackedFloat.round, htarget, decreaseExponent, hplaces, Nat.shiftLeft_eq, hcount]
  rw [hround]
  apply h.roundWithAccuracy_atMost
  · rw [← hcount, targetExponent_mul_two_pow hpos, htarget]
  · exact Nat.mul_ne_zero hpos (Nat.two_pow_pos places).ne'
  · omega
  · have hsplit : (exponent - (target - count)).toNat = (exponent - low).toNat + places := by omega
    rw [hsplit, Nat.pow_add, ← Nat.mul_assoc]
    exact Nat.mul_le_mul_right _ hle

/-! ### Amounts that are not negative -/

/-- An amount that is at least zero is zero, infinite or unpacked with a positive sign. -/
theorem unpack_of_nonneg (h : 0.0 ≤ amount) :
    (∃ sign, amount.toModel.unpack = .zero sign) ∨ amount.toModel.unpack = .infinity .positive ∨
      ∃ mantissa exponent hpos, amount.toModel.unpack = .finite .positive mantissa exponent hpos := by
  rw [le_iff] at h
  cases hunpack : amount.toModel.unpack with
  | notANumber =>
    rw [hunpack] at h
    cases h
  | infinity sign =>
    rw [hunpack] at h
    cases sign with
    | negative => cases h
    | positive => exact .inr (.inl rfl)
  | zero sign => exact .inl ⟨sign, rfl⟩
  | finite sign mantissa exponent hpos =>
    rw [hunpack] at h
    cases sign with
    | negative => cases h
    | positive => exact .inr (.inr ⟨mantissa, exponent, hpos, rfl⟩)

/-- A difference that is above zero is of whole numbers of which the first is larger, and it is at most
this. -/
theorem le_of_positive_normalize {hpos} (h : Canonical mantissa exponent) (hmost : exponent ≤ 971)
    (hlow : low ≤ exponent) {difference : Int}
    (hle : difference ≤ (mantissa * 2 ^ (exponent - low).toNat : Nat))
    (hpositive : (UnpackedFloat.zero .positive).lt (Float.Model.pack
      (UnpackedFloat.normalize .binary64 difference low .positive)).unpack = true) :
    (Float.Model.pack (UnpackedFloat.normalize .binary64 difference low .positive)).unpack.le
      (.finite .positive mantissa exponent hpos) = true := by
  rcases Int.lt_trichotomy difference 0 with hneg | rfl | hpos'
  · rw [(notPositive_normalize hneg).not_lt] at hpositive
    cases hpositive
  · have hzero : UnpackedFloat.normalize .binary64 0 low .positive = .zero .positive := rfl
    rw [hzero] at hpositive
    cases hpositive
  · rw [normalize_of_pos hpos'] at hpositive ⊢
    have hatMost : AtMost (UnpackedFloat.round .binary64 .positive difference.toNat low) mantissa
        exponent := h.round_atMost (by omega) hlow (by omega)
    rcases hatMost with hzero | ⟨short, final, hshort, hfinite, hless⟩
    · rw [hzero] at hpositive
      cases hpositive
    · rw [hfinite, hshort.unpack_pack, if_pos (by omega)]
      show ((compare final exponent).then (compare short mantissa)).isLE = true
      rcases hless with hlt | ⟨rfl, hle'⟩
      · rw [Int.compare_eq_lt.2 hlt]
        rfl
      · rw [Int.compare_eq_eq.2 rfl]
        exact Nat.isLE_compare.2 hle'

theorem toModel_sub : (first - second).toModel =
    .pack (UnpackedFloat.sub .binary64 first.toModel.unpack second.toModel.unpack) := rfl

theorem sub_zero (amount : Float) : amount - 0.0 = amount := by
  have hsame : UnpackedFloat.sub .binary64 amount.toModel.unpack (0.0 : Float).toModel.unpack =
      amount.toModel.unpack := by
    have hzero : (0.0 : Float).toModel.unpack = .zero .positive := rfl
    rw [hzero]
    cases amount.toModel.unpack with
    | zero sign => cases sign <;> rfl
    | _ => rfl
  have hmodel : (amount - 0.0).toModel = amount.toModel := by
    rw [toModel_sub, hsame, pack_unpack_toModel]
  exact congrArg Float.ofModel hmodel

theorem pos_sub_iff : 0.0 < first - second ↔ (UnpackedFloat.zero .positive).lt
    (Float.Model.pack (UnpackedFloat.sub .binary64 first.toModel.unpack
      second.toModel.unpack)).unpack = true :=
  lt_iff 0.0 (first - second)

/-- Nothing can be taken from zero. -/
theorem not_pos_sub_of_zero {sign : Sign} (hfirst : first.toModel.unpack = .zero sign)
    (hsecond : 0.0 ≤ second) : ¬ 0.0 < first - second := by
  rw [pos_sub_iff, hfirst]
  intro h
  rcases unpack_of_nonneg hsecond with ⟨other, htaken⟩ | htaken | ⟨_, _, _, htaken⟩
  · rw [htaken] at h
    cases sign <;> cases other <;> cases h
  · rw [htaken] at h
    cases sign <;> cases h
  · rw [htaken] at h
    exact absurd h (Bool.eq_false_iff.1 notPositive_pack.not_lt)

theorem sub_le_of_finite {hpos}
    (hfirst : first.toModel.unpack = .finite .positive mantissa exponent hpos)
    (hsecond : 0.0 ≤ second) (h : 0.0 < first - second) : first - second ≤ first := by
  rw [pos_sub_iff] at h
  rw [le_iff]
  rcases unpack_of_nonneg hsecond with ⟨sign, htaken⟩ | htaken | ⟨mantissa', exponent', _, htaken⟩
  · have hsame : (first - second).toModel = first.toModel := by
      rw [← pack_unpack_toModel first, toModel_sub, hfirst, htaken]
      rfl
    have hnumber : first.isNaN = false := by
      rw [isNaN_eq_false_iff, hfirst]
      exact UnpackedFloat.noConfusion
    rw [hsame, ← le_iff]
    exact le_self hnumber
  · have hdown : UnpackedFloat.sub .binary64 first.toModel.unpack second.toModel.unpack =
        .infinity .negative := by
      rw [hfirst, htaken]
      rfl
    rw [hdown] at h
    cases h
  · have hsub : UnpackedFloat.sub .binary64 first.toModel.unpack second.toModel.unpack =
        UnpackedFloat.normalize .binary64
          ((mantissa <<< (exponent - min exponent exponent').toNat : Nat) -
            (mantissa' <<< (exponent' - min exponent exponent').toNat : Nat))
          (min exponent exponent') .positive := by
      rw [hfirst, htaken]
      rfl
    rw [hsub] at h
    rw [toModel_sub, hsub, hfirst]
    refine le_of_positive_normalize (canonical_of_unpack hfirst) (exponent_le_of_unpack hfirst)
      (Int.min_le_left ..) ?_ h
    rw [Nat.shiftLeft_eq]
    exact Int.sub_le_self _ (Int.natCast_nonneg _)

/-- What is above zero after something was taken away is at most what there was before. -/
theorem sub_le_of_pos (hfirst : 0.0 ≤ first) (hsecond : 0.0 ≤ second)
    (h : 0.0 < first - second) : first - second ≤ first := by
  rcases unpack_of_nonneg hfirst with ⟨sign, hunpack⟩ | hunpack | ⟨mantissa, exponent, hpos, hunpack⟩
  · exact absurd h (not_pos_sub_of_zero hunpack hsecond)
  · exact le_of_infinite hunpack (isNaN_of_le (le_of_lt h)).2
  · exact sub_le_of_finite hunpack hsecond h

/-! ### What is left -/

theorem zero_le_positivePart (amount : Float) : 0.0 ≤ positivePart amount := by
  unfold positivePart
  split
  · next h => exact le_of_lt h
  · exact le_self rfl

/-- A part that is no number, or not above zero, is nothing. -/
theorem positivePart_of_not_pos (h : amount.isNaN = true ∨ amount ≤ 0.0) :
    positivePart amount = 0.0 := by
  refine if_neg fun hpos => ?_
  rcases h with hnumber | hle
  · rw [(isNaN_of_le (le_of_lt hpos)).2] at hnumber
    cases hnumber
  · exact not_lt_of_le hle hpos

/-- No more is left than there was. -/
theorem positivePart_sub_le (h : 0.0 ≤ amount) (taken : Float) :
    positivePart (amount - positivePart taken) ≤ amount := by
  have hpart := zero_le_positivePart taken
  generalize positivePart taken = part at hpart ⊢
  unfold positivePart
  split
  · next hpos => exact sub_le_of_pos h hpart hpos
  · exact h

/-- What nothing was taken from is left, though not as a zero below zero. -/
theorem positivePart_beq_self (h : 0.0 ≤ amount) : (positivePart amount == amount) = true := by
  unfold positivePart
  split
  · exact beq_self (isNaN_of_le h).2
  · next hnot => exact beq_of_le_of_not_lt h hnot

end CharacterSim.Amount
