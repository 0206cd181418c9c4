import CharacterSim.Proofs.Numeric.Canonical

/-! What is left of an amount that is lowered by one. The difference is rounded, yet it is at least one
exactly when the amount was at least two: below two it is exact, and above it is rounded to no less
than one. -/

namespace CharacterSim.Amount

open Float.Model (Format UnpackedFloat totalExponent)
open Float.Model.UnpackedFloat hiding round normalize

variable {sign : Sign} {mantissa : Nat} {exponent : Int}

/-! ### Rounding mantissas of full length -/

/-- A mantissa that only has zeros behind its full length loses nothing but these. -/
theorem roundWithAccuracy_mul_two_pow (sign : Sign) (h : Full mantissa) (count : Nat)
    (hexponent : -1074 ≤ exponent + count) :
    ∃ hpos, roundWithAccuracy .binary64 sign (mantissa * 2 ^ count) exponent .exact =
      .finite sign mantissa (exponent + count) hpos := by
  have hcanonical : Canonical mantissa (exponent + count) := h.canonical hexponent
  have hround := hcanonical.roundWithAccuracy_eq sign count
  rw [Int.add_sub_cancel] at hround
  exact ⟨hcanonical.pos, hround⟩

/-- A mantissa that is at least of full length is rounded to full length. -/
theorem roundWithAccuracy_of_long (h : 52 ≤ mantissa.log2) (hexponent : -1074 ≤ exponent) :
    ∃ rounded final hpos, roundWithAccuracy .binary64 sign mantissa exponent .exact =
      .finite sign rounded final hpos ∧ Full rounded ∧ exponent ≤ final := by
  have hne : mantissa ≠ 0 := by
    rintro rfl
    simp at h
  obtain ⟨count, hcount⟩ := Nat.exists_eq_add_of_le h
  have hback : exponent = exponent + count - count := by omega
  have htarget : Format.binary64.targetExponent (totalExponent mantissa (exponent + count - count)) =
      exponent + count := by
    rw [targetExponent_eq]
    omega
  have hdigits : mantissa ≤ 2 ^ 53 * 2 ^ count := by
    rw [← Nat.pow_add]
    exact Nat.le_of_lt ((Nat.log2_lt hne).1 (by omega))
  obtain ⟨rounded, hrounded⟩ : ∃ rounded, ((⟨mantissa, false, false⟩ : ExtendedMantissa) >>>
    count).roundedMantissa = rounded := ⟨_, rfl⟩
  have hleast : 2 ^ 52 ≤ rounded := hrounded ▸ le_roundedMantissa hcount
  rw [hback, roundWithAccuracy_of_rounded sign (by omega) htarget hrounded
    (hrounded ▸ roundedMantissa_le hdigits), dif_neg (by omega)]
  split
  · next hshort =>
    exact ⟨rounded, _, Nat.lt_of_lt_of_le (by decide) hleast, rfl, ⟨hleast, hshort⟩, by omega⟩
  · exact ⟨2 ^ 52, _, by decide, rfl, ⟨by decide, by decide⟩, by omega⟩

theorem round_of_long (sign : Sign) (h : 52 ≤ mantissa.log2) (hexponent : -1074 ≤ exponent) :
    ∃ rounded final hpos, UnpackedFloat.round .binary64 sign mantissa exponent =
      .finite sign rounded final hpos ∧ Full rounded ∧ exponent ≤ final := by
  have hnone : (exponent - max (mantissa.log2 + exponent - 52) (-1074)).toNat = 0 := by omega
  have hsame : UnpackedFloat.round .binary64 sign mantissa exponent =
      roundWithAccuracy .binary64 sign mantissa exponent .exact := by
    rw [UnpackedFloat.round, targetExponent_eq, decreaseExponent, hnone]
    simp only [Nat.shiftLeft_zero, Int.ofNat_zero, Int.sub_zero]
  rw [hsame]
  exact roundWithAccuracy_of_long h hexponent

/-- A mantissa that is at most of full length is lengthened, and nothing is lost. -/
theorem round_of_short (sign : Sign) (hpos : mantissa ≠ 0) (h : mantissa.log2 ≤ 52)
    (hexponent : -1022 ≤ exponent) :
    ∃ hlengthened, UnpackedFloat.round .binary64 sign mantissa exponent =
      .finite sign (mantissa * 2 ^ (52 - mantissa.log2)) (exponent - (52 - mantissa.log2 : Nat))
        hlengthened := by
  have hcount : (exponent - max (mantissa.log2 + exponent - 52) (-1074)).toNat =
      52 - mantissa.log2 := by
    omega
  have hfull := full_mul hpos h
  have hfinal : -1074 ≤ exponent - (52 - mantissa.log2 : Nat) := by omega
  have hround : UnpackedFloat.round .binary64 sign mantissa exponent =
      roundWithAccuracy .binary64 sign (mantissa * 2 ^ (52 - mantissa.log2))
        (exponent - (52 - mantissa.log2 : Nat)) .exact := by
    rw [UnpackedFloat.round, targetExponent_eq, decreaseExponent, hcount, Nat.shiftLeft_eq]
  obtain ⟨hlengthened, hfull'⟩ := roundWithAccuracy_mul_two_pow sign hfull 0
    (hfinal.trans (Int.add_zero _).ge)
  refine ⟨hlengthened, hround.trans ?_⟩
  rwa [Nat.pow_zero, Nat.mul_one, Int.natCast_zero, Int.add_zero] at hfull'

/-! ### Comparison with powers of two -/

/-- A power of two, as it is unpacked. -/
def power (exponent : Int) : UnpackedFloat := .finite .positive (2 ^ 52) exponent (by decide)

variable {limit : Int}

theorem power_le_finite_iff {hpos} (h : 2 ^ 52 ≤ mantissa ∨ exponent < limit) :
    (power limit).le (.finite .positive mantissa exponent hpos) = true ↔ limit ≤ exponent := by
  have hcompare : (power limit).le (.finite .positive mantissa exponent hpos) =
      ((compare limit exponent).then (compare (2 ^ 52) mantissa)).isLE := rfl
  rw [hcompare]
  rcases Int.lt_trichotomy limit exponent with hlt | heq | hgt
  · rw [Int.compare_eq_lt.2 hlt]
    exact iff_of_true rfl hlt.le
  · have hle : (compare (2 ^ 52) mantissa).isLE := Nat.isLE_compare.2 (h.resolve_right (by omega))
    rw [Int.compare_eq_eq.2 heq]
    exact iff_of_true hle heq.le
  · rw [Int.compare_eq_gt.2 hgt]
    exact iff_of_false Bool.false_ne_true (by omega)

theorem one_le_pack_iff {hpos} (h : Full mantissa) (hexponent : -1074 ≤ exponent) :
    (power (-52)).le (Float.Model.pack (.finite .positive mantissa exponent hpos)).unpack = true ↔
      -52 ≤ exponent := by
  rw [unpack_pack_of_full h hexponent]
  split
  · exact power_le_finite_iff (.inl h.1)
  · exact iff_of_true rfl (by omega)

theorem NotPositive.not_power_le {amount : UnpackedFloat} (h : NotPositive amount) :
    (power limit).le amount = false := by
  cases amount with
  | notANumber => rfl
  | infinity sign =>
    obtain rfl : sign = .negative := h
    rfl
  | zero sign => rfl
  | finite sign mantissa exponent hpos =>
    obtain rfl : sign = .negative := h
    rfl

/-! ### One less -/

/-- What is left of an unpacked amount, packed and unpacked again. -/
def lowered (amount : UnpackedFloat) : UnpackedFloat :=
  (Float.Model.pack (UnpackedFloat.sub .binary64 amount (power (-52)))).unpack

theorem sub_one_eq {hpos} : UnpackedFloat.sub .binary64 (.finite sign mantissa exponent hpos)
    (power (-52)) = UnpackedFloat.normalize .binary64
      (sign.apply (mantissa <<< (exponent - min exponent (-52)).toNat : Nat) -
        (2 ^ 52 <<< (-52 - min exponent (-52)).toNat : Nat)) (min exponent (-52)) .positive := by
  cases sign <;> rfl

theorem not_one_le_lowered_negative {hpos} :
    (power (-52)).le (lowered (.finite .negative mantissa exponent hpos)) = false := by
  rw [lowered, sub_one_eq]
  refine (notPositive_normalize ?_).not_power_le
  have hunit : 0 < 2 ^ 52 <<< (-52 - min exponent (-52)).toNat := by
    rw [Nat.shiftLeft_eq]
    exact Nat.mul_pos (by decide) (Nat.two_pow_pos _)
  generalize 2 ^ 52 <<< (-52 - min exponent (-52)).toNat = unit at hunit ⊢
  generalize mantissa <<< (exponent - min exponent (-52)).toNat = size
  show -(size : Int) - unit < 0
  omega

theorem not_one_le_lowered_small {hpos} (hmantissa : mantissa < 2 ^ 53) (h : exponent < -52) :
    (power (-52)).le (lowered (.finite .positive mantissa exponent hpos)) = false := by
  rw [lowered, sub_one_eq]
  refine (notPositive_normalize ?_).not_power_le
  have hmin : min exponent (-52) = exponent := by omega
  have hnone : (exponent - exponent).toNat = 0 := by omega
  obtain ⟨count, hcount⟩ : ∃ count, (-52 - exponent).toNat = count + 1 :=
    ⟨(-52 - exponent).toNat - 1, by omega⟩
  have hunit : 2 ^ 53 ≤ 2 ^ 52 <<< (count + 1) := by
    have hone : 1 ≤ 2 ^ count := Nat.two_pow_pos count
    rw [Nat.shiftLeft_eq, Nat.pow_succ]
    omega
  rw [Sign.apply, hmin, hnone, hcount, Nat.shiftLeft_zero]
  omega

/-- From one to two the difference is exact. -/
theorem not_one_le_lowered_unit {hpos} (hmantissa : mantissa < 2 ^ 53) :
    (power (-52)).le (lowered (.finite .positive mantissa (-52) hpos)) = false := by
  have hsub : UnpackedFloat.sub .binary64 (.finite .positive mantissa (-52) hpos) (power (-52)) =
      UnpackedFloat.normalize .binary64 (mantissa - 2 ^ 52) (-52) .positive := by
    rw [sub_one_eq]
    rfl
  rw [lowered, hsub]
  rcases Int.lt_trichotomy ((mantissa : Int) - 2 ^ 52) 0 with hneg | hzero | hpositive
  · exact (notPositive_normalize hneg).not_power_le
  · rw [hzero]
    rfl
  · have hne : ((mantissa : Int) - 2 ^ 52).toNat ≠ 0 := by omega
    have hlog : ((mantissa : Int) - 2 ^ 52).toNat.log2 < 52 := (Nat.log2_lt hne).2 (by omega)
    have hshort : (-1022 : Int) ≤ -52 := by omega
    obtain ⟨hlengthened, hround⟩ := round_of_short .positive hne (by omega) hshort
    rw [normalize_of_pos hpositive, hround, Bool.eq_false_iff, Ne,
      one_le_pack_iff (full_mul hne (by omega)) (by omega)]
    omega

/-- From two on the difference is rounded to no less than one. -/
theorem one_le_lowered_large {hpos} (hmantissa : 2 ^ 52 ≤ mantissa) (h : -51 ≤ exponent) :
    (power (-52)).le (lowered (.finite .positive mantissa exponent hpos)) = true := by
  have hmin : min exponent (-52) = -52 := by omega
  obtain ⟨count, hcount⟩ : ∃ count, (exponent - -52).toNat = count + 1 :=
    ⟨(exponent - -52).toNat - 1, by omega⟩
  have hunit : 2 ^ 53 ≤ mantissa <<< (count + 1) := by
    have hone : 1 ≤ 2 ^ count := Nat.two_pow_pos count
    rw [Nat.shiftLeft_eq, Nat.pow_succ]
    calc 2 ^ 53 = 2 ^ 52 * (1 * 2) := by decide
      _ ≤ mantissa * (2 ^ count * 2) := Nat.mul_le_mul hmantissa (Nat.mul_le_mul_right 2 hone)
  have hsub : UnpackedFloat.sub .binary64 (.finite .positive mantissa exponent hpos) (power (-52)) =
      UnpackedFloat.normalize .binary64 ((mantissa <<< (count + 1) : Nat) - 2 ^ 52) (-52) .positive := by
    rw [sub_one_eq, hmin, hcount]
    rfl
  have hpositive : 0 < ((mantissa <<< (count + 1) : Nat) : Int) - 2 ^ 52 := by omega
  have hne : (((mantissa <<< (count + 1) : Nat) : Int) - 2 ^ 52).toNat ≠ 0 := by omega
  have hlog : 52 ≤ (((mantissa <<< (count + 1) : Nat) : Int) - 2 ^ 52).toNat.log2 :=
    (Nat.le_log2 hne).2 (by omega)
  have hshort : (-1074 : Int) ≤ -52 := by omega
  obtain ⟨rounded, final, hrounded, hround, hfull, hfinal⟩ :=
    round_of_long .positive hlog hshort
  rw [lowered, hsub, normalize_of_pos hpositive, hround]
  exact (one_le_pack_iff hfull (by omega)).2 hfinal

/-- One less than an amount is at least one exactly when the amount is at least two. -/
theorem one_le_sub_one_iff (amount : Float) : (1.0 : Float) ≤ amount - 1.0 ↔ (2.0 : Float) ≤ amount := by
  have hone : (1.0 : Float).toModel.unpack = power (-52) := rfl
  have htwo : (2.0 : Float).toModel.unpack = power (-51) := rfl
  have hlowered : (amount - 1.0).toModel.unpack = lowered amount.toModel.unpack := rfl
  rw [le_iff, le_iff, hone, htwo, hlowered]
  cases hunpack : amount.toModel.unpack with
  | notANumber => exact iff_of_false (by decide +kernel) (by decide +kernel)
  | infinity sign =>
    cases sign with
    | negative => exact iff_of_false (by decide +kernel) (by decide +kernel)
    | positive => exact iff_of_true (by decide +kernel) (by decide +kernel)
  | zero sign =>
    cases sign <;> exact iff_of_false (by decide +kernel) (by decide +kernel)
  | finite sign mantissa exponent hpos =>
    cases sign with
    | negative =>
      exact iff_of_false (Bool.eq_false_iff.1 not_one_le_lowered_negative) Bool.false_ne_true
    | positive =>
      have hcanonical := canonical_of_unpack hunpack
      have hmantissa := hcanonical.short
      rw [power_le_finite_iff (hcanonical.full_or_least.imp_right fun hleast => by omega)]
      rcases Int.lt_trichotomy exponent (-52) with hlt | rfl | hgt
      · exact iff_of_false (Bool.eq_false_iff.1 (not_one_le_lowered_small hmantissa hlt)) (by omega)
      · exact iff_of_false (Bool.eq_false_iff.1 (not_one_le_lowered_unit hmantissa)) (by omega)
      · exact iff_of_true (one_le_lowered_large (hcanonical.full_or_least.resolve_right (by omega))
          (by omega)) (by omega)

end CharacterSim.Amount
