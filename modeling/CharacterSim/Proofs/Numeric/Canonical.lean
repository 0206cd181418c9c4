import CharacterSim.Proofs.Numeric.Comparison

/-! The one form in which an amount is unpacked. A mantissa has its full length of 53 bits unless the
exponent is least, so that no amount has two forms; what is in this form is neither rounded nor changed
by packing, and lies between the two farthest amounts. -/

namespace CharacterSim.Amount

open Float.Model (Format UnpackedFloat totalExponent)
open Float.Model.UnpackedFloat hiding round normalize

/-! ### Shifting and rounding mantissas -/

theorem mantissa_shiftRight (em : ExtendedMantissa) (count : Nat) :
    (em >>> count).mantissa = em.mantissa / 2 ^ count := by
  induction count with
  | zero => exact (Nat.div_one em.mantissa).symm
  | succ count ih =>
    show (em >>> count).mantissa / 2 = em.mantissa / 2 ^ (count + 1)
    rw [ih, Nat.div_div_eq_div_mul, Nat.pow_succ]

theorem roundedMantissa_bounds (em : ExtendedMantissa) :
    em.mantissa ≤ em.roundedMantissa ∧ em.roundedMantissa ≤ em.mantissa + 1 := by
  obtain ⟨mantissa, roundBit, stickyBit⟩ := em
  have hodd : mantissa % 2 < 2 := Nat.mod_lt mantissa (by decide)
  cases roundBit <;> cases stickyBit <;>
    simp only [ExtendedMantissa.roundedMantissa, ExtendedMantissa.accuracy,
      Accuracy.roundToNearestEven] <;> omega

/-- A mantissa of full length. -/
def Full (mantissa : Nat) : Prop := 2 ^ 52 ≤ mantissa ∧ mantissa < 2 ^ 53

theorem Full.log2_eq {mantissa : Nat} (h : Full mantissa) : mantissa.log2 = 52 :=
  (Nat.log2_eq_iff (Nat.ne_of_gt (Nat.lt_of_lt_of_le (by decide) h.1))).2 h

theorem targetExponent_eq {mantissa : Nat} {exponent : Int} :
    Format.binary64.targetExponent (totalExponent mantissa exponent) =
      max (mantissa.log2 + exponent - 52) (-1074) := by
  have hmin : Format.binary64.minExponent = -1074 := by decide
  have hbits : (Format.binary64.mantissaBits : Int) = 53 := by decide
  rw [Format.targetExponent, totalExponent, hmin, hbits]
  congr 1
  omega

variable {sign : Sign} {mantissa size count : Nat} {exponent : Int}

theorem log2_mul_two_pow (hpos : mantissa ≠ 0) (count : Nat) :
    (mantissa * 2 ^ count).log2 = mantissa.log2 + count := by
  induction count with
  | zero => rw [Nat.pow_zero, Nat.mul_one, Nat.add_zero]
  | succ count ih =>
    have hne : mantissa * 2 ^ count ≠ 0 := Nat.mul_ne_zero hpos (Nat.two_pow_pos count).ne'
    rw [Nat.pow_succ', Nat.mul_left_comm, Nat.log2_two_mul hne, ih, Nat.add_assoc]

/-- Zeros behind a mantissa do not move its first digit. -/
theorem targetExponent_mul_two_pow (hpos : mantissa ≠ 0) (count : Nat) :
    Format.binary64.targetExponent (totalExponent (mantissa * 2 ^ count) (exponent - count)) =
      Format.binary64.targetExponent (totalExponent mantissa exponent) := by
  rw [targetExponent_eq, targetExponent_eq, log2_mul_two_pow hpos]
  omega

/-- A mantissa that is short enough is left as it is. -/
theorem shiftToTargetExponent_of_short (h : mantissa < 2 ^ 53) (hexponent : -1074 ≤ exponent) :
    shiftToTargetExponent .binary64 mantissa exponent .exact =
      (⟨mantissa, false, false⟩, exponent) := by
  have hlog : mantissa.log2 ≤ 52 := by
    by_cases hzero : mantissa = 0
    · rw [hzero]
      decide
    · exact Nat.le_of_lt_succ ((Nat.log2_lt hzero).2 h)
  have hnone : (max (mantissa.log2 + exponent - 52) (-1074) - exponent).toNat = 0 := by omega
  rw [shiftToTargetExponent, shiftToExponent, targetExponent_eq, hnone]
  simp only [Int.ofNat_zero, Int.add_zero]
  rfl

theorem shiftToTargetExponent_of_carry (hexponent : -1074 ≤ exponent) :
    shiftToTargetExponent .binary64 (2 ^ 53) exponent .exact =
      (⟨2 ^ 52, false, false⟩, exponent + 1) := by
  have htarget : Format.binary64.targetExponent (totalExponent (2 ^ 53) exponent) =
      exponent + 1 := by
    rw [targetExponent_eq, Nat.log2_two_pow]
    omega
  have hone : (exponent + 1 - exponent).toNat = 1 := by omega
  rw [shiftToTargetExponent, htarget, shiftToExponent, hone]
  rfl

theorem full_div (h : 52 ≤ mantissa.log2) : Full (mantissa / 2 ^ (mantissa.log2 - 52)) := by
  have hpos : mantissa ≠ 0 := by
    rintro rfl
    simp at h
  obtain ⟨hlow, hhigh⟩ := (Nat.log2_eq_iff hpos).1 rfl
  have hsplit : 2 ^ mantissa.log2 = 2 ^ 52 * 2 ^ (mantissa.log2 - 52) := by
    rw [← Nat.pow_add]
    congr 1
    omega
  constructor
  · rw [Nat.le_div_iff_mul_le (Nat.two_pow_pos _)]
    omega
  · rw [Nat.div_lt_iff_lt_mul (Nat.two_pow_pos _)]
    rw [Nat.pow_succ] at hhigh
    omega

theorem full_mul (hpos : mantissa ≠ 0) (h : mantissa.log2 ≤ 52) :
    Full (mantissa * 2 ^ (52 - mantissa.log2)) := by
  obtain ⟨hlow, hhigh⟩ := (Nat.log2_eq_iff hpos).1 rfl
  have hsplit : 2 ^ mantissa.log2 * 2 ^ (52 - mantissa.log2) = 2 ^ 52 := by
    rw [← Nat.pow_add]
    congr 1
    omega
  constructor
  · rw [← hsplit]
    exact Nat.mul_le_mul_right _ hlow
  · have hlt := Nat.mul_lt_mul_of_pos_right hhigh (Nat.two_pow_pos (52 - mantissa.log2))
    rw [Nat.pow_succ, Nat.mul_right_comm, hsplit] at hlt
    exact hlt

/-- Nothing is lost with zeros. -/
theorem shiftRight_mul_two_pow (mantissa count : Nat) :
    (⟨mantissa * 2 ^ count, false, false⟩ : ExtendedMantissa) >>> count =
      ⟨mantissa, false, false⟩ := by
  induction count generalizing mantissa with
  | zero => exact congrArg (ExtendedMantissa.mk · false false) (Nat.mul_one mantissa)
  | succ count ih =>
    have hsplit : mantissa * 2 ^ (count + 1) = mantissa * 2 * 2 ^ count := by
      rw [Nat.pow_succ', Nat.mul_assoc]
    show ExtendedMantissa.shiftRightOne
      ((⟨mantissa * 2 ^ (count + 1), false, false⟩ : ExtendedMantissa) >>> count) = _
    rw [hsplit, ih]
    simp [ExtendedMantissa.shiftRightOne]

/-- Rounding does not get past a whole number. -/
theorem roundedMantissa_le (h : size ≤ mantissa * 2 ^ count) :
    ((⟨size, false, false⟩ : ExtendedMantissa) >>> count).roundedMantissa ≤ mantissa := by
  by_cases heq : size = mantissa * 2 ^ count
  · rw [heq, shiftRight_mul_two_pow]
    exact Nat.le_refl mantissa
  · have hcut : ((⟨size, false, false⟩ : ExtendedMantissa) >>> count).mantissa = size / 2 ^ count :=
      mantissa_shiftRight _ count
    have hless : size / 2 ^ count < mantissa :=
      (Nat.div_lt_iff_lt_mul (Nat.two_pow_pos count)).2 (Nat.lt_of_le_of_ne h heq)
    obtain ⟨-, hrounded⟩ :=
      roundedMantissa_bounds ((⟨size, false, false⟩ : ExtendedMantissa) >>> count)
    omega

/-- At least as many digits as a full mantissa has are rounded to no fewer. -/
theorem le_roundedMantissa (h : size.log2 = 52 + count) :
    2 ^ 52 ≤ ((⟨size, false, false⟩ : ExtendedMantissa) >>> count).roundedMantissa := by
  have hcount : size.log2 - 52 = count := by omega
  have hcut : ((⟨size, false, false⟩ : ExtendedMantissa) >>> count).mantissa = size / 2 ^ count :=
    mantissa_shiftRight _ count
  obtain ⟨hdigits, -⟩ := full_div (show 52 ≤ size.log2 by omega)
  obtain ⟨hbelow, -⟩ :=
    roundedMantissa_bounds ((⟨size, false, false⟩ : ExtendedMantissa) >>> count)
  rw [hcount] at hdigits
  omega

/-- The rounded mantissa takes the place of the first digits, or of one digit more if it needs it. -/
theorem roundWithAccuracy_of_rounded (sign : Sign) (hexponent : -1074 ≤ exponent)
    (htarget : Format.binary64.targetExponent (totalExponent size (exponent - count)) = exponent)
    {rounded : Nat} (hrounded : ((⟨size, false, false⟩ : ExtendedMantissa) >>>
      count).roundedMantissa = rounded) (hmost : rounded ≤ 2 ^ 53) :
    roundWithAccuracy .binary64 sign size (exponent - count) .exact =
      if hzero : rounded = 0 then .zero sign
      else if rounded < 2 ^ 53 then .finite sign rounded exponent (Nat.pos_of_ne_zero hzero)
      else .finite sign (2 ^ 52) (exponent + 1) (by decide) := by
  have hcount : (exponent - (exponent - count)).toNat = count := by omega
  have hback : exponent - count + count = exponent := by omega
  have hshift : shiftToTargetExponent .binary64 size (exponent - count) .exact =
      ((⟨size, false, false⟩ : ExtendedMantissa) >>> count, exponent) := by
    rw [shiftToTargetExponent, shiftToExponent, htarget, hcount, hback]
    rfl
  unfold roundWithAccuracy
  rw [hshift]
  dsimp only
  rw [hrounded]
  by_cases hshort : rounded < 2 ^ 53
  · rw [shiftToTargetExponent_of_short hshort hexponent]
    simp only [hshort, if_true]
  · obtain rfl : rounded = 2 ^ 53 := Nat.le_antisymm hmost (Nat.le_of_not_lt hshort)
    rw [shiftToTargetExponent_of_carry hexponent]
    rfl

/-! ### The canonical form -/

/-- A mantissa of full length, or a shorter one with the least exponent. -/
structure Canonical (mantissa : Nat) (exponent : Int) : Prop where
  pos : 0 < mantissa
  short : mantissa < 2 ^ 53
  least : -1074 ≤ exponent
  full_or_least : 2 ^ 52 ≤ mantissa ∨ exponent = -1074

theorem Full.canonical (h : Full mantissa) (hexponent : -1074 ≤ exponent) :
    Canonical mantissa exponent :=
  ⟨Nat.lt_of_lt_of_le (by decide) h.1, h.2, hexponent, .inl h.1⟩

theorem Canonical.targetExponent_eq (h : Canonical mantissa exponent) :
    Format.binary64.targetExponent (totalExponent mantissa exponent) = exponent := by
  have hshort : mantissa.log2 ≤ 52 := Nat.le_of_lt_succ ((Nat.log2_lt h.pos.ne').2 h.short)
  have hleast := h.least
  rw [Amount.targetExponent_eq]
  rcases h.full_or_least with hfull | rfl
  · have hlog : 52 ≤ mantissa.log2 := (Nat.le_log2 h.pos.ne').2 hfull
    omega
  · omega

/-- What has a canonical form is rounded to this. -/
theorem Canonical.roundWithAccuracy_eq (h : Canonical mantissa exponent) (sign : Sign)
    (count : Nat) : roundWithAccuracy .binary64 sign (mantissa * 2 ^ count) (exponent - count)
      .exact = .finite sign mantissa exponent h.pos := by
  have hcount : (exponent - (exponent - count)).toNat = count := by omega
  have hback : exponent - count + count = exponent := by omega
  have hshift : shiftToTargetExponent .binary64 (mantissa * 2 ^ count) (exponent - count) .exact =
      (⟨mantissa, false, false⟩, exponent) := by
    rw [shiftToTargetExponent, shiftToExponent, targetExponent_mul_two_pow h.pos.ne',
      h.targetExponent_eq, hcount, hback]
    exact congrArg (·, exponent) (shiftRight_mul_two_pow mantissa count)
  have hsame := shiftToTargetExponent_of_short h.short h.least
  unfold roundWithAccuracy
  rw [hshift]
  dsimp only
  rw [show ExtendedMantissa.roundedMantissa ⟨mantissa, false, false⟩ = mantissa from rfl, hsame]
  exact dif_neg h.pos.ne'

/-! ### Packing -/

theorem unpackSign_packComponents {spec : Format} {sign exponent mantissa} :
    unpackSign (packComponents spec sign exponent mantissa) = sign.toBitVec := by
  ext i hi
  have hzero : i = 0 := by omega
  subst hzero
  simp [unpackSign, packComponents, BitVec.getLsbD_eq_getElem, BitVec.getLsbD_append,
    BitVec.getElem_append]

theorem ofBitVec_toBitVec (sign : Sign) : Sign.ofBitVec sign.toBitVec = sign := by
  cases sign <;> rfl

theorem unpack_packedInfinity (sign : Sign) :
    unpack .binary64 (packedInfinity .binary64 sign) = .infinity sign := by
  simp only [unpack, packedInfinity, unpackSign_packComponents, ofBitVec_toBitVec,
    unpackExponent_packComponents, unpackMantissa_packComponents]
  rfl

theorem toNat_one_append (low : BitVec 52) : (1#1 ++ low).toNat = 2 ^ 52 + low.toNat := by
  rw [BitVec.toNat_append, Nat.shiftLeft_eq]
  exact (Nat.two_pow_add_eq_or_of_lt low.isLt 1).symm

theorem unpack_packComponents_of_full {biased : Nat} (h : Full mantissa) (hlow : biased ≠ 0)
    (hhigh : biased < 2047) (hpos) : unpack .binary64 (packComponents .binary64 sign
      (BitVec.ofNat 11 biased) (BitVec.ofNat 52 mantissa)) =
        .finite sign mantissa (biased - 1075) hpos := by
  have hbiased : (BitVec.ofNat 11 biased).toNat = biased := by
    rw [BitVec.toNat_ofNat, Nat.mod_eq_of_lt (by omega)]
  have hnotFull : BitVec.ofNat 11 biased ≠ -1#11 := by
    intro heq
    have hval := hbiased.symm.trans (congrArg BitVec.toNat heq)
    rw [show (-1#11).toNat = 2047 from rfl] at hval
    omega
  have hnotZero : BitVec.ofNat 11 biased ≠ 0#11 := by
    intro heq
    exact hlow (hbiased.symm.trans (congrArg BitVec.toNat heq))
  have hmantissa : (1#1 ++ BitVec.ofNat 52 mantissa).toNat = mantissa := by
    obtain ⟨hleast, hmost⟩ := h
    rw [toNat_one_append, BitVec.toNat_ofNat]
    omega
  simp only [unpack, unpackSign_packComponents, ofBitVec_toBitVec,
    unpackExponent_packComponents, unpackMantissa_packComponents, if_neg hnotFull,
    if_neg hnotZero, hbiased, hmantissa]
  rfl

/-- An amount with a full mantissa is packed as it is, unless it is too large. -/
theorem unpack_pack_of_full (h : Full mantissa) (hexponent : -1074 ≤ exponent) {hpos} :
    (Float.Model.pack (.finite sign mantissa exponent hpos)).unpack =
      if exponent ≤ 971 then .finite sign mantissa exponent hpos else .infinity sign := by
  show unpack .binary64 (pack .binary64 (.finite sign mantissa exponent hpos)) = _
  have hbias : (exponent + Format.binary64.exponentBias + Format.binary64.mantissaBitsWithoutImplicit)
      = exponent + 1075 := by
    show exponent + 1023 + 52 = exponent + 1075
    omega
  have hbits : Nat.log2 mantissa + 1 = Format.binary64.mantissaBits := by
    rw [h.log2_eq]
    rfl
  unfold pack
  dsimp only
  rw [hbias, if_pos hbits]
  by_cases hlarge : exponent ≤ 971
  · have hfits : ¬ 2 ^ 11 ≤ (exponent + 1075).toNat + 1 := by omega
    have hback : ((exponent + 1075).toNat : Int) - 1075 = exponent := by omega
    rw [if_neg hfits, if_pos hlarge,
      unpack_packComponents_of_full h (by omega) (by omega) hpos, hback]
  · have hover : 2 ^ 11 ≤ (exponent + 1075).toNat + 1 := by omega
    rw [if_pos hover, if_neg hlarge, unpack_packedInfinity]

/-- An amount with the least exponent and a mantissa that is not full. -/
theorem unpack_pack_of_least (h : mantissa < 2 ^ 52) (hpos : 0 < mantissa) :
    (Float.Model.pack (.finite sign mantissa (-1074) hpos)).unpack =
      .finite sign mantissa (-1074) hpos := by
  show unpack .binary64 (pack .binary64 (.finite sign mantissa (-1074) hpos)) = _
  have hbias : (-1074 + (Format.binary64.exponentBias : Int) +
      (Format.binary64.mantissaBitsWithoutImplicit : Int)).toNat = 1 := by decide
  have hshort : mantissa.log2 + 1 ≠ Format.binary64.mantissaBits := by
    have hlog : mantissa.log2 < 52 := (Nat.log2_lt hpos.ne').2 h
    have hbits : Format.binary64.mantissaBits = 53 := by decide
    omega
  have hmantissa : (BitVec.ofNat 52 mantissa).toNat = mantissa := by
    rw [BitVec.toNat_ofNat, Nat.mod_eq_of_lt h]
  have hnonzero : BitVec.ofNat 52 mantissa ≠ 0#52 := by
    intro hzero
    rw [hzero] at hmantissa
    exact hpos.ne hmantissa
  unfold pack
  dsimp only
  rw [hbias, if_neg (by decide), if_neg hshort]
  simp only [unpack, unpackSign_packComponents, ofBitVec_toBitVec, unpackExponent_packComponents,
    unpackMantissa_packComponents, if_neg hnonzero, dif_neg hnonzero, hmantissa]
  rfl

/-- What has the canonical form keeps it when it is packed, unless it is too large. -/
theorem Canonical.unpack_pack (h : Canonical mantissa exponent) (sign : Sign) :
    (Float.Model.pack (.finite sign mantissa exponent h.pos)).unpack =
      if exponent ≤ 971 then .finite sign mantissa exponent h.pos else .infinity sign := by
  by_cases hfull : 2 ^ 52 ≤ mantissa
  · exact unpack_pack_of_full ⟨hfull, h.short⟩ h.least
  · obtain rfl := h.full_or_least.resolve_left hfull
    rw [if_pos (by decide)]
    exact unpack_pack_of_least (Nat.lt_of_not_le hfull) h.pos

/-- What is unpacked has the canonical form. -/
theorem canonical_unpack {bits : BitVec Format.binary64.numBits} {hpos}
    (h : unpack .binary64 bits = .finite sign mantissa exponent hpos) :
    Canonical mantissa exponent := by
  suffices hform : -1074 ≤ exponent ∧ mantissa < 2 ^ 53 ∧
      (2 ^ 52 ≤ mantissa ∨ exponent = -1074) from ⟨hpos, hform.2.1, hform.1, hform.2.2⟩
  simp only [unpack] at h
  split at h
  · split at h <;> cases h
  · next hfinite =>
    split at h
    · next hleast =>
      split at h
      · cases h
      · cases h
        have hexponent : (unpackExponent bits).toNat = 0 := congrArg BitVec.toNat hleast
        have hlt : (unpackMantissa bits).toNat < 2 ^ 52 := (unpackMantissa bits).isLt
        have hvalue : ((unpackExponent bits).toNat : Int) - 1075 + 1 = -1074 := by omega
        exact ⟨hvalue.ge, hlt.trans (by decide), .inr hvalue⟩
    · next hmore =>
      cases h
      have hexponent : (unpackExponent bits).toNat ≠ 0 := fun hzero =>
        hmore (BitVec.eq_of_toNat_eq hzero)
      have hlt : (unpackMantissa bits).toNat < 2 ^ 52 := (unpackMantissa bits).isLt
      have hmantissa : (1#1 ++ unpackMantissa bits).toNat = 2 ^ 52 + (unpackMantissa bits).toNat :=
        toNat_one_append _
      refine ⟨?_, ?_, .inl ?_⟩
      · show -1074 ≤ ((unpackExponent bits).toNat : Int) - 1075
        omega
      · show (1#1 ++ unpackMantissa bits).toNat < 2 ^ 53
        omega
      · show 2 ^ 52 ≤ (1#1 ++ unpackMantissa bits).toNat
        omega

theorem canonical_of_unpack {amount : Float} {hpos}
    (h : amount.toModel.unpack = .finite sign mantissa exponent hpos) :
    Canonical mantissa exponent :=
  canonical_unpack h

theorem pack_unpack_toModel (amount : Float) :
    Float.Model.pack amount.toModel.unpack = amount.toModel := by
  obtain ⟨⟨bits, hvalid⟩⟩ := amount
  have hback := pack_unpack_of_valid hvalid
  simp only [Float.Model.pack, Float.Model.unpack, hback]

/-- An amount that is unpacked is not too large. -/
theorem exponent_le_of_unpack {amount : Float} {hpos}
    (h : amount.toModel.unpack = .finite sign mantissa exponent hpos) : exponent ≤ 971 := by
  have hback := (canonical_of_unpack h).unpack_pack sign
  rw [← h, pack_unpack_toModel, h] at hback
  split at hback
  · next hmost => exact hmost
  · cases hback

/-! ### The farthest amounts -/

theorem unpack_highest :
    highest.toModel.unpack = .finite .positive (2 ^ 53 - 1) 971 (by decide) := rfl

theorem unpack_lowest :
    lowest.toModel.unpack = .finite .negative (2 ^ 53 - 1) 971 (by decide) := rfl

/-- A form that an amount can have is no larger than the largest. -/
theorem isLE_compare_most (hshort : mantissa < 2 ^ 53) (hmost : exponent ≤ 971) :
    ((compare exponent 971).then (compare mantissa (2 ^ 53 - 1))).isLE = true := by
  rw [Ordering.isLE_then_iff_or]
  rcases Int.lt_or_eq_of_le hmost with hbelow | rfl
  · exact .inl (Int.compare_eq_lt.2 hbelow)
  · have hmantissa : mantissa ≤ 2 ^ 53 - 1 := by omega
    exact .inr ⟨Int.compare_eq_eq.2 rfl, Nat.isLE_compare.2 hmantissa⟩

/-- Every finite amount lies between the extremes. -/
theorem between_extremes {amount : Float} (h : amount.isFinite = true) :
    lowest ≤ amount ∧ amount ≤ highest := by
  have hform : amount.toModel.unpack.isFinite = true := h
  rw [le_iff, le_iff, unpack_lowest, unpack_highest]
  cases hunpack : amount.toModel.unpack with
  | notANumber =>
    rw [hunpack] at hform
    cases hform
  | infinity sign =>
    rw [hunpack] at hform
    cases hform
  | zero sign => exact ⟨rfl, rfl⟩
  | finite sign mantissa exponent hpos =>
    have hshort := (canonical_of_unpack hunpack).short
    have hmost := isLE_compare_most hshort (exponent_le_of_unpack hunpack)
    cases sign with
    | positive => exact ⟨rfl, hmost⟩
    | negative =>
      refine ⟨?_, rfl⟩
      -- below zero the comparison runs the other way round
      show (((compare 971 exponent).then (compare (2 ^ 53 - 1) mantissa)).swap).isLE = true
      rw [Ordering.swap_then, Int.compare_swap, Nat.compare_swap]
      exact hmost

/-! ### Signs -/

/-- It is below zero or zero, or no number. -/
def NotPositive : UnpackedFloat → Prop
  | .notANumber | .zero _ => True
  | .infinity sign | .finite sign .. => sign = .negative

theorem notPositive_packComponents {exponent : BitVec 11} {mantissa : BitVec 52} :
    NotPositive (unpack .binary64 (packComponents .binary64 .negative exponent mantissa)) := by
  simp only [unpack, unpackSign_packComponents, ofBitVec_toBitVec]
  split
  · split
    · rfl
    · trivial
  · split
    · split
      · trivial
      · rfl
    · rfl

theorem notPositive_pack {hpos} :
    NotPositive (Float.Model.pack (.finite .negative mantissa exponent hpos)).unpack := by
  show NotPositive (unpack .binary64 (pack .binary64 (.finite .negative mantissa exponent hpos)))
  unfold pack
  dsimp only
  split
  · exact notPositive_packComponents
  · split <;> exact notPositive_packComponents

theorem round_keeps_sign (sign : Sign) (mantissa : Nat) (exponent : Int) :
    (UnpackedFloat.round .binary64 sign mantissa exponent = .zero sign) ∨
    ∃ rounded final hpos, UnpackedFloat.round .binary64 sign mantissa exponent =
      .finite sign rounded final hpos := by
  unfold UnpackedFloat.round roundWithAccuracy
  dsimp only
  split
  · exact .inl rfl
  · next hne => exact .inr ⟨_, _, Nat.pos_of_ne_zero hne, rfl⟩

theorem normalize_of_neg {difference : Int} (h : difference < 0) :
    UnpackedFloat.normalize .binary64 difference exponent .positive =
      UnpackedFloat.round .binary64 .negative (-difference).toNat exponent := by
  rw [UnpackedFloat.normalize, Int.compare_eq_lt.2 h]

theorem normalize_of_pos {difference : Int} (h : 0 < difference) :
    UnpackedFloat.normalize .binary64 difference exponent .positive =
      UnpackedFloat.round .binary64 .positive difference.toNat exponent := by
  rw [UnpackedFloat.normalize, Int.compare_eq_gt.2 h]

/-- A difference below zero is not rounded to anything above it. -/
theorem notPositive_normalize {difference : Int} (h : difference < 0) : NotPositive
    (Float.Model.pack (UnpackedFloat.normalize .binary64 difference exponent .positive)).unpack := by
  rw [normalize_of_neg h]
  rcases round_keeps_sign .negative (-difference).toNat exponent with hzero | ⟨rounded, final, hpos, hfinite⟩
  · rw [hzero]
    trivial
  · rw [hfinite]
    exact notPositive_pack

theorem NotPositive.not_lt {amount : UnpackedFloat} (h : NotPositive amount) :
    (UnpackedFloat.zero .positive).lt amount = false := by
  cases amount with
  | notANumber => rfl
  | infinity sign =>
    obtain rfl : sign = .negative := h
    rfl
  | zero sign => rfl
  | finite sign mantissa exponent hpos =>
    obtain rfl : sign = .negative := h
    rfl

end CharacterSim.Amount
