import CharacterSim.Proofs.Numeric.Decrement

/-! Amounts in the form in which they travel. A count of 256ths has at most 32 bits, so nothing of
it is lost when it is scaled down by a power of two and up again: what is sent for an amount that
was received is the count that was received. -/

namespace CharacterSim.Amount

open Float.Model (Format UnpackedFloat totalExponent)
open Float.Model.UnpackedFloat hiding round normalize

variable {sign : Sign} {mantissa : Nat} {exponent scale : Int} {amount factor : Float}

/-- An amount is as large as some power of two times a mantissa of full length. -/
structure Normal (amount : Float) (sign : Sign) (mantissa : Nat) (exponent : Int) : Prop where
  full : Full mantissa
  least : -1074 ≤ exponent
  most : exponent ≤ 971
  unpack_eq : ∃ hpos, amount.toModel.unpack = .finite sign mantissa exponent hpos

theorem normal_of_pack {hpos} (h : Full mantissa) (hleast : -1074 ≤ exponent)
    (hmost : exponent ≤ 971)
    (hamount : amount.toModel = .pack (.finite sign mantissa exponent hpos)) :
    Normal amount sign mantissa exponent := by
  refine ⟨h, hleast, hmost, hpos, ?_⟩
  rw [hamount, unpack_pack_of_full h hleast, if_pos hmost]

/-- A factor that is a power of two moves the exponent and leaves the mantissa as it is. -/
theorem Normal.mul_power (h : Normal amount sign mantissa exponent)
    (hfactor : factor.toModel.unpack = power scale) (hleast : -1074 ≤ exponent + scale + 52)
    (hmost : exponent + scale + 52 ≤ 971) :
    Normal (amount * factor) sign mantissa (exponent + scale + 52) := by
  obtain ⟨hpos, hamount⟩ := h.unpack_eq
  obtain ⟨hpos', hround⟩ := roundWithAccuracy_mul_two_pow sign h.full 52 hleast
  have hmul : UnpackedFloat.mul .binary64 amount.toModel.unpack factor.toModel.unpack =
      roundWithAccuracy .binary64 sign (mantissa * 2 ^ 52) (exponent + scale) .exact := by
    rw [hamount, hfactor]
    cases sign <;> rfl
  exact normal_of_pack h.full hleast hmost (congrArg Float.Model.pack (hmul.trans hround))

/-- Divided by a power of two, a mantissa leaves no remainder. -/
theorem divCore_power (h : Full mantissa) (hleast : -1021 ≤ exponent - scale) :
    divCore .binary64 mantissa exponent (2 ^ 52) scale =
      (mantissa * 2 ^ 1, exponent - scale - 53, .exact) := by
  have htotal : totalExponent mantissa exponent - totalExponent (2 ^ 52) scale =
      exponent - scale := by
    rw [totalExponent, totalExponent, h.log2_eq, Nat.log2_two_pow]
    omega
  have htarget : min (exponent - scale) (Format.binary64.targetExponent (exponent - scale)) =
      exponent - scale - 53 := by
    have hmin : Format.binary64.minExponent = -1074 := by decide
    have hbits : (Format.binary64.mantissaBits : Int) = 53 := by decide
    rw [Format.targetExponent, hmin, hbits]
    omega
  have hcount : (exponent - scale - (exponent - scale - 53)).toNat = 53 := by omega
  -- The quotient has one digit more than a full mantissa, since as much may be lost in a division.
  have hproduct : mantissa <<< 53 = 2 ^ 52 * (mantissa * 2 ^ 1) := by
    rw [Nat.shiftLeft_eq]
    omega
  unfold divCore
  dsimp only
  rw [htotal, htarget, hcount, hproduct, Nat.mul_div_cancel_left _ (by decide),
    Nat.mul_mod_right]
  rfl

theorem Normal.div_power (h : Normal amount sign mantissa exponent)
    (hfactor : factor.toModel.unpack = power scale) (hleast : -1021 ≤ exponent - scale)
    (hmost : exponent - scale - 52 ≤ 971) :
    Normal (amount / factor) sign mantissa (exponent - scale - 52) := by
  obtain ⟨hpos, hamount⟩ := h.unpack_eq
  have hexponent : exponent - scale - 53 + (1 : Nat) = exponent - scale - 52 := by omega
  have hshort : -1074 ≤ exponent - scale - 53 + (1 : Nat) := by omega
  obtain ⟨hpos', hround⟩ := roundWithAccuracy_mul_two_pow sign h.full 1 hshort
  rw [hexponent] at hround
  have hdiv : UnpackedFloat.div .binary64 amount.toModel.unpack factor.toModel.unpack =
      roundWithAccuracy .binary64 sign (mantissa * 2 ^ 1) (exponent - scale - 53) .exact := by
    rw [hamount, hfactor, power, UnpackedFloat.div, divCore_power h.full hleast]
    cases sign <;> rfl
  exact normal_of_pack h.full (by omega) hmost (congrArg Float.Model.pack (hdiv.trans hround))

theorem Normal.neg (h : Normal amount sign mantissa exponent) :
    Normal (Float.neg amount) (-sign) mantissa exponent := by
  obtain ⟨hpos, hamount⟩ := h.unpack_eq
  have hneg : amount.toModel.unpack.neg = .finite (-sign) mantissa exponent hpos := by
    rw [hamount]
    rfl
  exact normal_of_pack h.full h.least h.most (congrArg Float.Model.pack hneg)

/-! ### Whole numbers -/

theorem normal_toFloat {number : Nat} (hpos : number ≠ 0) (h : number < 2 ^ 53) :
    Normal number.toUInt64.toFloat .positive (number * 2 ^ (52 - number.log2))
      (0 - (52 - number.log2 : Nat)) := by
  have hlog : number.log2 ≤ 52 := Nat.le_of_lt_succ ((Nat.log2_lt hpos).2 h)
  have hnormal : (-1022 : Int) ≤ 0 := by decide
  obtain ⟨hlengthened, hround⟩ := round_of_short .positive hpos hlog hnormal
  have hnumber : number.toUInt64.toNat = number := UInt64.toNat_ofNat_of_lt' (h.trans (by decide))
  have hconverted : ofUInt64 .binary64 number.toUInt64 =
      UnpackedFloat.round .binary64 .positive number 0 := by
    rw [ofUInt64, UnpackedFloat.ofNat, UnpackedFloat.ofInt, hnumber, normalize_of_pos (by omega),
      Int.toNat_natCast]
  exact normal_of_pack (full_mul hpos hlog) (by omega) (by omega)
    (congrArg Float.Model.pack (hconverted.trans hround))

theorem normal_ofNat {number : Nat} (hpos : number ≠ 0) (h : number < 2 ^ 53) :
    Normal (.ofNat number) .positive (number * 2 ^ (52 - number.log2))
      (0 - (52 - number.log2 : Nat)) := by
  -- A whole number is converted as a decimal one, with ten to the power of zero as a factor.
  have hone : (Float.ofBits 0x3FF0000000000000).toModel.unpack = power (-52) := rfl
  have hconverted : Float.ofNat number =
      number.toUInt64.toFloat * Float.ofBits 0x3FF0000000000000 := dif_pos ⟨h, by decide⟩
  have hexponent : (0 - (52 - number.log2 : Nat) : Int) + -52 + 52 =
      0 - (52 - number.log2 : Nat) := by omega
  have hnormal := normal_toFloat hpos h
  rw [hconverted, ← hexponent]
  exact hnormal.mul_power hone (by omega) (by omega)

theorem normal_ofInt {number : Int} (hpos : number ≠ 0) (h : number.natAbs < 2 ^ 53) :
    ∃ sign, sign.apply number.natAbs = number ∧
      Normal (.ofInt number) sign (number.natAbs * 2 ^ (52 - number.natAbs.log2))
        (0 - (52 - number.natAbs.log2 : Nat)) := by
  cases number with
  | ofNat number =>
    exact ⟨.positive, rfl, normal_ofNat (fun hzero => hpos (congrArg Int.ofNat hzero)) h⟩
  | negSucc number =>
    exact ⟨.negative, rfl, (normal_ofNat (Nat.succ_ne_zero number) h).neg⟩

theorem toInt32_of_normal {number count : Nat}
    (h : Normal amount sign (number * 2 ^ count) (0 - count)) :
    amount.toModel.toInt32 = .ofIntClamp (sign.apply number) := by
  obtain ⟨hpos, hamount⟩ := h.unpack_eq
  have hlengthen : ((0 - count : Int) - 0).toNat = 0 := by omega
  have hcut : (0 - ((0 - count : Int) - (0 : Nat))).toNat = count := by omega
  have hround : roundToInt sign (number * 2 ^ count) (0 - count) = sign.apply number := by
    rw [roundToInt, decreaseExponent, hlengthen, Nat.shiftLeft_zero]
    dsimp only
    rw [shiftToExponent, hcut]
    exact congrArg (fun em : ExtendedMantissa => sign.apply em.mantissa)
      (shiftRight_mul_two_pow number count)
  show Int32.ofIntClamp (amount.toModel.unpack.toInt _ _) = _
  rw [hamount]
  exact congrArg Int32.ofIntClamp hround

/-! ### Counts of 256ths -/

theorem unpack_fixedPointScale : fixedPointScale.toModel.unpack = power (-44) := rfl

theorem normal_ofFixedPoint {count : Int32} (h : count ≠ 0) :
    ∃ sign number, sign.apply (number : Nat) = count.toInt ∧ number.log2 ≤ 52 ∧
      Normal (ofFixedPoint count) sign (number * 2 ^ (52 - number.log2))
        (0 - (52 - number.log2 : Nat) - 8) := by
  have hnonzero : count.toInt ≠ 0 := fun hzero => h (Int32.toInt.inj hzero)
  have hleast := count.le_toInt
  have hmost := count.toInt_lt
  obtain ⟨sign, hsign, hnormal⟩ := normal_ofInt hnonzero (by omega)
  have hlog : count.toInt.natAbs.log2 < 53 := (Nat.log2_lt (by omega)).2 (by omega)
  refine ⟨sign, _, hsign, Nat.le_of_lt_succ hlog, ?_⟩
  generalize count.toInt.natAbs.log2 = log at hnormal hlog ⊢
  have hexponent : (0 - (52 - log : Nat) : Int) - -44 - 52 = 0 - (52 - log : Nat) - 8 := by omega
  rw [← hexponent]
  exact hnormal.div_power unpack_fixedPointScale (by omega) (by omega)

/-- The number that an amount stands for. -/
def value? (amount : Float) : Option ℚ :=
  match amount.toModel.unpack with
  | .finite sign mantissa exponent _ => some (sign.apply mantissa * 2 ^ exponent)
  | .zero _ => some 0
  | _ => none

theorem Normal.value?_eq (h : Normal amount sign mantissa exponent) :
    value? amount = some (sign.apply mantissa * 2 ^ exponent : ℚ) := by
  obtain ⟨hpos, hamount⟩ := h.unpack_eq
  rw [value?, hamount]

/-- The amount that a count stands for is as many 256ths. -/
theorem value?_ofFixedPoint (count : Int32) :
    value? (ofFixedPoint count) = some (count.toInt / 256 : ℚ) := by
  by_cases hzero : count = 0
  · have hunpack : (ofFixedPoint 0).toModel.unpack = .zero .positive := rfl
    rw [hzero, value?, hunpack]
    simp
  obtain ⟨sign, number, hsign, -, hnormal⟩ := normal_ofFixedPoint hzero
  rw [hnormal.value?_eq, ← hsign]
  generalize 52 - number.log2 = places
  have hexponent : (0 - (places : Int) - 8) = -((places + 8 : Nat) : Int) := by omega
  have hpower : (2 : ℚ) ^ (0 - (places : Int) - 8) = (2 ^ places * 256)⁻¹ := by
    rw [hexponent, zpow_neg, zpow_natCast, pow_add]
    norm_num
  rw [hpower]
  cases sign <;>
  · simp only [Sign.apply]
    push_cast
    field_simp

/-- The count that is sent for an amount that was received is the one that was received. -/
theorem toFixedPoint_ofFixedPoint (count : Int32) : toFixedPoint (ofFixedPoint count) = count := by
  by_cases hzero : count = 0
  · subst hzero
    decide +kernel
  obtain ⟨sign, number, hsign, hlog, hnormal⟩ := normal_ofFixedPoint hzero
  have hscaled := hnormal.mul_power unpack_fixedPointScale (by omega) (by omega)
  have hexponent : (0 - (52 - number.log2 : Nat) - 8 : Int) + -44 + 52 =
      0 - (52 - number.log2 : Nat) := by omega
  rw [hexponent] at hscaled
  calc toFixedPoint (ofFixedPoint count)
    _ = .ofIntClamp (sign.apply number) := toInt32_of_normal hscaled
    _ = .ofIntClamp count.toInt := by rw [hsign]
    _ = count := Int32.ofIntClamp_toInt count

end CharacterSim.Amount
