import CharacterSim.Message.Basic
import CharacterSim.Message.Cursor

/-! What the reads of a payload take from it. A number takes a fixed count of bytes and is read
exactly where its bytes stand; a text is read where its length stands before its characters. -/

namespace CharacterSim

section

variable {ε σ α β : Type}

/-- What comes second runs where the first left off, unless that failed. -/
theorem run_bind (first : ExceptT ε (StateM σ) α) (second : α → ExceptT ε (StateM σ) β)
    (state : σ) : ((first >>= second).run state).run =
      match (first.run state).run with
      | (.ok value, middle) => ((second value).run middle).run
      | (.error error, middle) => (.error error, middle) := by
  change (match (first.run state).run with
    | (outcome, middle) => ((ExceptT.bindCont second outcome) middle).run) = _
  rcases (first.run state).run with ⟨outcome, middle⟩
  cases outcome <;> rfl

theorem run_bind_eq_ok_iff {first : ExceptT ε (StateM σ) α} {second : α → ExceptT ε (StateM σ) β}
    {state after : σ} {value : β} : ((first >>= second).run state).run = (.ok value, after) ↔
      ∃ answer middle, (first.run state).run = (.ok answer, middle) ∧
        ((second answer).run middle).run = (.ok value, after) := by
  rw [run_bind]
  rcases (first.run state).run with ⟨error | answer, middle⟩
  · simp
  · constructor
    · exact fun h => ⟨answer, middle, rfl, h⟩
    · rintro ⟨_, _, ⟨⟩, h⟩
      exact h

theorem run_get_bind (next : σ → ExceptT ε (StateM σ) β) (state : σ) :
    ((get >>= next).run state).run = ((next state).run state).run := rfl

end

/-- Bytes stand for a number that fits into so many of them. -/
theorem Bytes.toNat_lt (bytes : List UInt8) : toNat bytes < Nat.pow 256 bytes.length := by
  have hfold : ∀ number, bytes.foldl (fun number byte => number * 256 + byte.toNat) number <
      (number + 1) * Nat.pow 256 bytes.length := by
    induction bytes with
    | nil => exact fun number => by simp
    | cons byte rest ih =>
      intro number
      have hbyte : number * 256 + byte.toNat + 1 ≤ (number + 1) * 256 := by
        have := byte.toNat_lt
        omega
      calc
        _ < (number * 256 + byte.toNat + 1) * Nat.pow 256 rest.length := ih _
        _ ≤ (number + 1) * 256 * Nat.pow 256 rest.length := Nat.mul_le_mul_right _ hbyte
        _ = (number + 1) * Nat.pow 256 (rest.length + 1) := by
          rw [Nat.mul_assoc, Nat.mul_comm 256]
          rfl
  have hstart := hfold 0
  rwa [Nat.zero_add, Nat.one_mul] at hstart

namespace Message

def decodeInt8 (bytes : List UInt8) : Int8 := (UInt8.ofNat (Bytes.toNat bytes)).toInt8

def decodeInt16 (bytes : List UInt8) : Int16 := (UInt16.ofNat (Bytes.toNat bytes)).toInt16

def decodeInt32 (bytes : List UInt8) : Int32 := (UInt32.ofNat (Bytes.toNat bytes)).toInt32

theorem decodeInt8_encodeInt8 (value : Int8) : decodeInt8 (encodeInt8 value) = value := by
  have hfits : value.toUInt8.toNat < Nat.pow 256 1 := value.toUInt8.toNat_lt
  rw [decodeInt8, encodeInt8, Bytes.toNat_bigEndian hfits, UInt8.ofNat_toNat]
  rfl

theorem decodeInt16_encodeInt16 (value : Int16) : decodeInt16 (encodeInt16 value) = value := by
  have hfits : value.toUInt16.toNat < Nat.pow 256 2 := value.toUInt16.toNat_lt
  rw [decodeInt16, encodeInt16, Bytes.toNat_bigEndian hfits, UInt16.ofNat_toNat]
  rfl

theorem decodeInt32_encodeInt32 (value : Int32) : decodeInt32 (encodeInt32 value) = value := by
  have hfits : value.toUInt32.toNat < Nat.pow 256 4 := value.toUInt32.toNat_lt
  rw [decodeInt32, encodeInt32, Bytes.toNat_bigEndian hfits, UInt32.ofNat_toNat]
  rfl

theorem encodeInt8_decodeInt8 {bytes : List UInt8} (h : bytes.length = 1) :
    encodeInt8 (decodeInt8 bytes) = bytes := by
  have hfits : Bytes.toNat bytes < Nat.pow 256 1 := h ▸ Bytes.toNat_lt bytes
  have hback : (decodeInt8 bytes).toUInt8.toNat = Bytes.toNat bytes :=
    UInt8.toNat_ofNat_of_lt' hfits
  rw [encodeInt8, hback, ← h, Bytes.bigEndian_toNat]

theorem encodeInt16_decodeInt16 {bytes : List UInt8} (h : bytes.length = 2) :
    encodeInt16 (decodeInt16 bytes) = bytes := by
  have hfits : Bytes.toNat bytes < Nat.pow 256 2 := h ▸ Bytes.toNat_lt bytes
  have hback : (decodeInt16 bytes).toUInt16.toNat = Bytes.toNat bytes :=
    UInt16.toNat_ofNat_of_lt' hfits
  rw [encodeInt16, hback, ← h, Bytes.bigEndian_toNat]

theorem encodeInt32_decodeInt32 {bytes : List UInt8} (h : bytes.length = 4) :
    encodeInt32 (decodeInt32 bytes) = bytes := by
  have hfits : Bytes.toNat bytes < Nat.pow 256 4 := h ▸ Bytes.toNat_lt bytes
  have hback : (decodeInt32 bytes).toUInt32.toNat = Bytes.toNat bytes :=
    UInt32.toNat_ofNat_of_lt' hfits
  rw [encodeInt32, hback, ← h, Bytes.bigEndian_toNat]

/-- The 16-bit numbers that count something are those below 32768. -/
theorem counts_iff {number : Int16} {count : Nat} :
    0 ≤ number ∧ number.toInt.toNat = count ↔ count < 32768 ∧ Int16.ofNat count = number := by
  constructor
  · rintro ⟨hnonneg, rfl⟩
    refine ⟨?_, number.ofNat_toNatClampNeg hnonneg⟩
    have := number.toInt_lt
    omega
  · rintro ⟨hfits, rfl⟩
    have hcount : (Int16.ofNat count).toInt = count := Int16.toInt_ofNat_of_lt hfits
    rw [Int16.le_iff_toInt_le, hcount]
    exact ⟨Int.natCast_nonneg _, Int.toNat_natCast _⟩

end Message

namespace Cursor

variable {α β : Type}

/-- The place so many bytes later. -/
def advance (cursor : Cursor) (count : Nat) : Cursor :=
  ⟨cursor.offset + count, cursor.unread.drop count⟩

/-- Some bytes stand between one place of a payload and a later one. -/
def Spells (before : Cursor) (bytes : List UInt8) (after : Cursor) : Prop :=
  before.unread = bytes ++ after.unread ∧ after.offset = before.offset + bytes.length

variable {before after : Cursor} {first second bytes : List UInt8}

theorem spells_nil : before.Spells [] after ↔ after = before := by
  obtain ⟨offset, unread⟩ := before
  obtain ⟨offset', unread'⟩ := after
  simp [Spells, eq_comm, and_comm]

theorem spells_ofBytes (bytes : List UInt8) :
    (ofBytes bytes).Spells bytes ⟨bytes.length, []⟩ :=
  ⟨(List.append_nil _).symm, (Nat.zero_add _).symm⟩

theorem spells_append : before.Spells (first ++ second) after ↔
    ∃ middle, before.Spells first middle ∧ middle.Spells second after := by
  constructor
  · rintro ⟨hunread, hoffset⟩
    refine ⟨⟨before.offset + first.length, second ++ after.unread⟩, ⟨?_, rfl⟩, rfl, ?_⟩
    · rw [hunread, List.append_assoc]
    · rw [hoffset, List.length_append, Nat.add_assoc]
  · rintro ⟨middle, ⟨hfirst, hmiddle⟩, hsecond, hafter⟩
    refine ⟨?_, ?_⟩
    · rw [hfirst, hsecond, List.append_assoc]
    · rw [hafter, hmiddle, List.length_append, Nat.add_assoc]

theorem spells_advance {count : Nat} (h : count ≤ before.remaining) :
    before.Spells (before.unread.take count) (before.advance count) := by
  refine ⟨(List.take_append_drop count _).symm, ?_⟩
  have hlength : (before.unread.take count).length = count := List.length_take_of_le h
  rw [hlength]
  rfl

theorem Spells.remaining (h : before.Spells bytes after) :
    bytes.length ≤ before.remaining := by
  rw [Cursor.remaining, h.1, List.length_append]
  exact Nat.le_add_right _ _

theorem Spells.eq_advance (h : before.Spells bytes after) :
    before.unread.take bytes.length = bytes ∧ before.advance bytes.length = after := by
  obtain ⟨offset, unread⟩ := after
  obtain ⟨hunread, rfl⟩ := h
  refine ⟨?_, ?_⟩
  · rw [hunread, List.take_left]
  · rw [advance, hunread, List.drop_left]

theorem run_take (count : Nat) (cursor : Cursor) : ((take count).run cursor).run =
    if cursor.remaining < count then
      (.error (.truncated cursor.offset count cursor.remaining), cursor)
    else (.ok (cursor.unread.take count), cursor.advance count) := by
  rw [take, run_get_bind]
  dsimp only
  split
  · rfl
  · rfl

/-- A read of so many bytes, which stand for something. -/
def Decodes (reader : Read α) (width : Nat) (decode : List UInt8 → α) : Prop :=
  ∀ cursor : Cursor, (reader.run cursor).run =
    if cursor.remaining < width then
      (.error (.truncated cursor.offset width cursor.remaining), cursor)
    else (.ok (decode (cursor.unread.take width)), cursor.advance width)

theorem decodes_map_take (width : Nat) (decode : List UInt8 → α) :
    Decodes (do return decode (← take width)) width decode := by
  intro cursor
  rw [run_bind, run_take]
  by_cases hshort : cursor.remaining < width
  · rw [if_pos hshort, if_pos hshort]
  · rw [if_neg hshort, if_neg hshort]
    rfl

theorem decodes_readInt8 : Decodes readInt8 1 Message.decodeInt8 := decodes_map_take 1 _

theorem decodes_readInt16 : Decodes readInt16 2 Message.decodeInt16 := decodes_map_take 2 _

theorem decodes_readInt32 : Decodes readInt32 4 Message.decodeInt32 := decodes_map_take 4 _

/-- Where every number has its own bytes, it is read exactly where these stand. -/
theorem Decodes.ok_iff {reader : Read α} {width : Nat} {decode : List UInt8 → α}
    {encode : α → List UInt8} (h : Decodes reader width decode)
    (hlength : ∀ value, (encode value).length = width)
    (hdecode : ∀ value, decode (encode value) = value)
    (hencode : ∀ bytes, bytes.length = width → encode (decode bytes) = bytes) {value : α} :
    (reader.run before).run = (.ok value, after) ↔ before.Spells (encode value) after := by
  rw [h before]
  constructor
  · intro hrun
    split at hrun
    · cases hrun
    · next hlong =>
      cases hrun
      have henough : width ≤ before.remaining := Nat.le_of_not_lt hlong
      rw [hencode _ (List.length_take_of_le henough)]
      exact spells_advance henough
  · intro hspells
    obtain ⟨htake, hadvance⟩ := hspells.eq_advance
    have henough := hspells.remaining
    rw [hlength] at htake hadvance henough
    rw [if_neg (Nat.not_lt.2 henough), htake, hdecode, hadvance]

theorem readInt8_ok_iff {value : Int8} : (readInt8.run before).run = (.ok value, after) ↔
    before.Spells (Message.encodeInt8 value) after :=
  decodes_readInt8.ok_iff (fun _ => Bytes.length_bigEndian 1 _) Message.decodeInt8_encodeInt8
    fun _ => Message.encodeInt8_decodeInt8

theorem readInt16_ok_iff {value : Int16} : (readInt16.run before).run = (.ok value, after) ↔
    before.Spells (Message.encodeInt16 value) after :=
  decodes_readInt16.ok_iff (fun _ => Bytes.length_bigEndian 2 _) Message.decodeInt16_encodeInt16
    fun _ => Message.encodeInt16_decodeInt16

theorem readInt32_ok_iff {value : Int32} : (readInt32.run before).run = (.ok value, after) ↔
    before.Spells (Message.encodeInt32 value) after :=
  decodes_readInt32.ok_iff (fun _ => Bytes.length_bigEndian 4 _) Message.decodeInt32_encodeInt32
    fun _ => Message.encodeInt32_decodeInt32

/-! ### Texts -/

/-- The characters that stand behind a length. -/
def text? (bytes : List UInt8) : Option String := String.fromUTF8? ⟨bytes.toArray⟩

theorem text?_eq_some_iff {text : String} :
    text? bytes = some text ↔ text.toUTF8.data.toList = bytes := by
  unfold text? String.fromUTF8?
  constructor
  · intro h
    split at h
    · cases h
      rfl
    · cases h
  · rintro rfl
    have hbytes : (⟨text.toUTF8.data.toList.toArray⟩ : ByteArray) = text.toUTF8 := rfl
    have hvalid : text.toUTF8.IsValidUTF8 := text.isValidUTF8
    rw [hbytes, dif_pos hvalid]
    rfl

/-- A text is read in two parts, and characters that are none are passed over. -/
theorem run_readString (cursor : Cursor) : (readString.run cursor).run =
    match (readInt16.run cursor).run with
    | (.error error, middle) => (.error error, middle)
    | (.ok length, middle) =>
      if length < 0 then (.error (.negativeLength length), middle)
      else if middle.remaining < length.toInt.toNat then
        (.error (.truncated middle.offset length.toInt.toNat middle.remaining), middle)
      else
        (match text? (middle.unread.take length.toInt.toNat) with
          | some text => .ok text
          | none => .error (.invalidString middle.offset), middle.advance length.toInt.toNat) := by
  rw [readString, run_bind]
  rcases (readInt16.run cursor).run with ⟨outcome, middle⟩
  cases outcome with
  | error error => rfl
  | ok length =>
    dsimp only
    split
    · rfl
    · rw [run_get_bind, run_bind, run_take]
      by_cases hshort : middle.remaining < length.toInt.toNat
      · rw [if_pos hshort, if_pos hshort]
      · rw [if_neg hshort, if_neg hshort, text?]
        dsimp only
        cases String.fromUTF8? ⟨(middle.unread.take length.toInt.toNat).toArray⟩ <;> rfl

/-- A text is read where the count of its bytes, which is not negative, stands before them. -/
theorem readString_ok_iff {text : String} : (readString.run before).run = (.ok text, after) ↔
    text.utf8ByteSize < 32768 ∧ before.Spells
      (Message.encodeInt16 (.ofNat text.utf8ByteSize) ++ text.toUTF8.data.toList) after := by
  have hsize : text.toUTF8.data.toList.length = text.utf8ByteSize := rfl
  rw [run_readString, spells_append]
  constructor
  · intro hrun
    rcases hlength : (readInt16.run before).run with ⟨error | length, middle⟩
    · rw [hlength] at hrun
      cases hrun
    · rw [hlength] at hrun
      dsimp only at hrun
      split at hrun
      · cases hrun
      next hnonneg =>
      split at hrun
      · cases hrun
      next hlong =>
      split at hrun
      next found htext =>
        cases hrun
        have henough : length.toInt.toNat ≤ middle.remaining := Nat.le_of_not_lt hlong
        have hbody := text?_eq_some_iff.1 htext
        have hcount : length.toInt.toNat = text.utf8ByteSize := by
          rw [← hsize, hbody, List.length_take_of_le henough]
        obtain ⟨hfits, hback⟩ := Message.counts_iff.1 ⟨Int16.not_lt.1 hnonneg, hcount⟩
        refine ⟨hfits, middle, ?_, ?_⟩
        · rw [hback]
          exact readInt16_ok_iff.1 hlength
        · rw [hbody]
          exact spells_advance henough
      · cases hrun
  · rintro ⟨hfits, middle, hlength, hbody⟩
    obtain ⟨hnonneg, hcount⟩ := Message.counts_iff.2 ⟨hfits, rfl⟩
    obtain ⟨htake, hadvance⟩ := hbody.eq_advance
    have henough := hbody.remaining
    rw [hsize] at htake hadvance henough
    rw [readInt16_ok_iff.2 hlength]
    dsimp only
    rw [if_neg (Int16.not_lt.2 hnonneg), hcount, if_neg (Nat.not_lt.2 henough), htake,
      text?_eq_some_iff.2 rfl, hadvance]

end Cursor

end CharacterSim
