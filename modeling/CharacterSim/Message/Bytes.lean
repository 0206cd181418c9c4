/-! Whole numbers as bytes, the most significant byte first. -/

namespace CharacterSim.Bytes

/-- The last `count` bytes of a number. -/
def bigEndian : Nat → Nat → List UInt8
  | 0, _ => []
  | count + 1, number => bigEndian count (number / 256) ++ [UInt8.ofNat number]

/-- The number that bytes stand for. -/
def toNat (bytes : List UInt8) : Nat := bytes.foldl (fun number byte => number * 256 + byte.toNat) 0

theorem toNat_append_singleton (bytes : List UInt8) (byte : UInt8) :
    toNat (bytes ++ [byte]) = toNat bytes * 256 + byte.toNat := by
  simp [toNat]

@[simp] theorem length_bigEndian (count number : Nat) : (bigEndian count number).length = count := by
  induction count generalizing number with
  | zero => rfl
  | succ count ih => simp [bigEndian, ih]

/-- A number that fits is read back from its bytes. -/
theorem toNat_bigEndian {count number : Nat} (h : number < Nat.pow 256 count) :
    toNat (bigEndian count number) = number := by
  induction count generalizing number with
  | zero =>
    rw [Nat.lt_one_iff.1 h]
    rfl
  | succ count ih =>
    have hwhole : number < Nat.pow 256 count * 256 := h
    rw [bigEndian, toNat_append_singleton, ih (by omega)]
    simp [UInt8.toNat_ofNat']
    omega

private theorem bigEndian_toNat_of_length {count : Nat} {bytes : List UInt8}
    (h : bytes.length = count) : bigEndian count (toNat bytes) = bytes := by
  induction count generalizing bytes with
  | zero => rw [List.length_eq_zero_iff.1 h]; rfl
  | succ count ih =>
    rcases List.eq_nil_or_concat bytes with rfl | ⟨front, byte, rfl⟩
    · simp at h
    · have hbyte := byte.toNat_lt
      rw [List.concat_eq_append, bigEndian, toNat_append_singleton,
        show (toNat front * 256 + byte.toNat) / 256 = toNat front by omega, ih (by simpa using h)]
      congr 2
      apply UInt8.toNat_inj.1
      simp only [UInt8.toNat_ofNat']
      omega

/-- Bytes are written back from the number they stand for. -/
theorem bigEndian_toNat (bytes : List UInt8) : bigEndian bytes.length (toNat bytes) = bytes :=
  bigEndian_toNat_of_length rfl

end CharacterSim.Bytes
