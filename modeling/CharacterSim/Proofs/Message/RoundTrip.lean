import CharacterSim.Proofs.Message.Reading
import Mathlib.Data.List.Forall2

/-! Values that are written to a message and read from it again. Numbers come back as they were, and
texts cut to what a length can describe; what is read without an error stood there as it is written.
Two lemmas carry both directions: a value is read exactly where its bytes stand, and a text that is
cut is written like what it is cut to. -/

namespace CharacterSim

/-! ### Texts as bytes -/

namespace Message

/-- The bytes of some characters. -/
def utf8 (chars : List Char) : List UInt8 := chars.flatMap String.utf8EncodeChar

theorem toUTF8_eq (text : String) : text.toUTF8.data.toList = utf8 text.toList := by
  rw [String.toUTF8_eq_toByteArray, ← String.utf8Encode_toList, List.utf8Encode,
    List.toList_data_toByteArray]
  rfl

theorem utf8ByteSize_eq (text : String) : text.utf8ByteSize = (utf8 text.toList).length := by
  rw [← toUTF8_eq]
  rfl

variable {limit : Nat} {chars other : List Char}

theorem length_utf8_cons (char : Char) (rest : List Char) :
    (utf8 (char :: rest)).length = char.utf8Size + (utf8 rest).length := by
  rw [utf8, List.flatMap_cons, List.length_append, String.length_utf8EncodeChar]
  rfl

theorem fitting_isPrefix (limit : Nat) (chars : List Char) : fitting limit chars <+: chars := by
  induction chars generalizing limit with
  | nil => exact List.nil_prefix
  | cons char rest ih =>
    rw [fitting]
    split
    · exact List.cons_prefix_cons.2 ⟨rfl, ih _⟩
    · exact List.nil_prefix

theorem length_utf8_fitting (limit : Nat) (chars : List Char) :
    (utf8 (fitting limit chars)).length ≤ limit := by
  induction chars generalizing limit with
  | nil => exact Nat.zero_le _
  | cons char rest ih =>
    rw [fitting]
    split
    · next hfits =>
      have hrest := ih (limit - char.utf8Size)
      rw [length_utf8_cons]
      omega
    · exact Nat.zero_le _

/-- No beginning that fits is longer. -/
theorem isPrefix_fitting (h : other <+: chars) (hfits : (utf8 other).length ≤ limit) :
    other <+: fitting limit chars := by
  induction chars generalizing limit other with
  | nil => rwa [fitting]
  | cons char rest ih =>
    cases other with
    | nil => exact List.nil_prefix
    | cons first others =>
      obtain ⟨rfl, hothers⟩ := List.cons_prefix_cons.1 h
      rw [length_utf8_cons] at hfits
      have hfirst : first.utf8Size ≤ limit := by omega
      rw [fitting, if_pos hfirst]
      exact List.cons_prefix_cons.2 ⟨rfl, ih hothers (by omega)⟩

theorem fitting_of_fits (h : (utf8 chars).length ≤ limit) : fitting limit chars = chars := by
  have hwhole : chars <+: fitting limit chars := isPrefix_fitting (List.prefix_refl chars) h
  exact (fitting_isPrefix limit chars).eq_of_length_le hwhole.length_le

/-- A text is cut to its longest beginning that takes no more than so many bytes. -/
structure CutTo (limit : Nat) (text cut : String) : Prop where
  beginning : cut.toList <+: text.toList
  fits : cut.utf8ByteSize ≤ limit
  longest : ∀ other : String, other.toList <+: text.toList → other.utf8ByteSize ≤ limit →
    other.toList <+: cut.toList

/-- The longest beginning of a text that can be written. -/
def cut (text : String) : String := .ofList (fitting longestString text.toList)

theorem toList_cut (text : String) : (cut text).toList = fitting longestString text.toList :=
  String.toList_ofList

theorem cutTo_cut (text : String) : CutTo longestString text (cut text) where
  beginning := by
    rw [toList_cut]
    exact fitting_isPrefix _ _
  fits := by
    rw [utf8ByteSize_eq, toList_cut]
    exact length_utf8_fitting _ _
  longest other hother hfits := by
    rw [toList_cut]
    rw [utf8ByteSize_eq] at hfits
    exact isPrefix_fitting hother hfits

theorem cut_of_fits {text : String} (h : text.utf8ByteSize ≤ longestString) : cut text = text := by
  rw [utf8ByteSize_eq] at h
  rw [cut, fitting_of_fits h, String.ofList_toList]

theorem encodeString_eq (text : String) : encodeString text =
    encodeInt16 (.ofNat (cut text).utf8ByteSize) ++ (cut text).toUTF8.data.toList := by
  rw [utf8ByteSize_eq, toUTF8_eq, toList_cut]
  rfl

end Message

/-! ### Values -/

/-- The kinds of value on the wire. -/
inductive WireKind where
  | int8
  | int16
  | int32
  | text
  deriving DecidableEq

/-- A value to be written or that was read. -/
inductive WireValue where
  | int8 (value : Int8)
  | int16 (value : Int16)
  | int32 (value : Int32)
  | text (value : String)
  deriving DecidableEq

namespace WireValue

def kind : WireValue → WireKind
  | int8 _ => .int8
  | int16 _ => .int16
  | int32 _ => .int32
  | text _ => .text

/-- How a value is written. -/
def bytes : WireValue → List UInt8
  | int8 value => Message.encodeInt8 value
  | int16 value => Message.encodeInt16 value
  | int32 value => Message.encodeInt32 value
  | text value => Message.encodeString value

/-- A text is not too long for its length to be written. -/
def Fits : WireValue → Prop
  | text value => value.utf8ByteSize ≤ Message.longestString
  | _ => True

/-- A value as it can be written. -/
def trimmed : WireValue → WireValue
  | text value => text (Message.cut value)
  | value => value

/-- What is left of a value that is written and read again. -/
def ComesBackAs : WireValue → WireValue → Prop
  | text value, text back => Message.CutTo Message.longestString value back ∧
      (value.utf8ByteSize ≤ Message.longestString → back = value)
  | value, back => back = value

variable (value : WireValue)

theorem kind_trimmed : value.trimmed.kind = value.kind := by
  cases value <;> rfl

theorem fits_trimmed : value.trimmed.Fits := by
  cases value with
  | text value => exact (Message.cutTo_cut value).fits
  | _ => trivial

theorem bytes_trimmed : value.trimmed.bytes = value.bytes := by
  cases value with
  | text value =>
    have hsame : Message.cut (Message.cut value) = Message.cut value :=
      Message.cut_of_fits (Message.cutTo_cut value).fits
    change Message.encodeString (Message.cut value) = Message.encodeString value
    rw [Message.encodeString_eq, hsame, ← Message.encodeString_eq]
  | _ => rfl

theorem comesBackAs_trimmed : value.ComesBackAs value.trimmed := by
  cases value with
  | text value => exact ⟨Message.cutTo_cut value, Message.cut_of_fits⟩
  | _ => rfl

end WireValue

namespace Message

/-- Writes a value of any kind. -/
def write (message : Message) : WireValue → Message
  | .int8 value => message.writeInt8 value
  | .int16 value => message.writeInt16 value
  | .int32 value => message.writeInt32 value
  | .text value => message.writeString value

/-- Writes one value after the other. -/
def writeAll (message : Message) (values : List WireValue) : Message := values.foldl write message

theorem payload_write (message : Message) (value : WireValue) :
    (message.write value).payload = message.payload ++ value.bytes := by
  cases value <;> rfl

theorem payload_writeAll (message : Message) (values : List WireValue) :
    (message.writeAll values).payload = message.payload ++ values.flatMap WireValue.bytes := by
  induction values generalizing message with
  | nil => exact (List.append_nil _).symm
  | cons value rest ih =>
    rw [writeAll, List.foldl_cons, ← writeAll, ih, payload_write, List.flatMap_cons,
      List.append_assoc]

end Message

namespace Cursor

/-- Reads a value of some kind. -/
def readValue : WireKind → Read WireValue
  | .int8 => return .int8 (← readInt8)
  | .int16 => return .int16 (← readInt16)
  | .int32 => return .int32 (← readInt32)
  | .text => return .text (← readString)

/-- Reads one value after the other. -/
def readAll (kinds : List WireKind) : Read (List WireValue) := kinds.mapM readValue

variable {α : Type} {before after : Cursor} {kind : WireKind} {value : WireValue}
  {kinds : List WireKind} {values : List WireValue}

theorem run_map_eq_ok_iff {reader : Read α} {wrap : α → WireValue} :
    ((do return wrap (← reader) : Read WireValue).run before).run = (.ok value, after) ↔
      ∃ answer, (reader.run before).run = (.ok answer, after) ∧ value = wrap answer := by
  rw [run_bind_eq_ok_iff]
  constructor
  · rintro ⟨answer, middle, hread, hrest⟩
    cases hrest
    exact ⟨answer, hread, rfl⟩
  · rintro ⟨answer, hread, rfl⟩
    exact ⟨answer, after, hread, rfl⟩

/-- A value is read exactly where its bytes stand, and a text that is read can be written. -/
theorem readValue_ok_iff : ((readValue kind).run before).run = (.ok value, after) ↔
    value.kind = kind ∧ value.Fits ∧ before.Spells value.bytes after := by
  have htext : ∀ text : String, text.utf8ByteSize < 32768 → before.Spells
      (Message.encodeInt16 (.ofNat text.utf8ByteSize) ++ text.toUTF8.data.toList) after =
        before.Spells (Message.encodeString text) after := by
    intro text hfits
    rw [Message.encodeString_eq, Message.cut_of_fits (Nat.le_of_lt_succ hfits)]
  constructor
  · intro hread
    cases kind with
    | int8 =>
      obtain ⟨number, hnumber, rfl⟩ := run_map_eq_ok_iff.1 hread
      exact ⟨rfl, trivial, readInt8_ok_iff.1 hnumber⟩
    | int16 =>
      obtain ⟨number, hnumber, rfl⟩ := run_map_eq_ok_iff.1 hread
      exact ⟨rfl, trivial, readInt16_ok_iff.1 hnumber⟩
    | int32 =>
      obtain ⟨number, hnumber, rfl⟩ := run_map_eq_ok_iff.1 hread
      exact ⟨rfl, trivial, readInt32_ok_iff.1 hnumber⟩
    | text =>
      obtain ⟨text, hbody, rfl⟩ := run_map_eq_ok_iff.1 hread
      obtain ⟨hfits, hspells⟩ := readString_ok_iff.1 hbody
      exact ⟨rfl, Nat.le_of_lt_succ hfits, htext text hfits ▸ hspells⟩
  · rintro ⟨rfl, hfits, hspells⟩
    cases value with
    | int8 number => exact run_map_eq_ok_iff.2 ⟨number, readInt8_ok_iff.2 hspells, rfl⟩
    | int16 number => exact run_map_eq_ok_iff.2 ⟨number, readInt16_ok_iff.2 hspells, rfl⟩
    | int32 number => exact run_map_eq_ok_iff.2 ⟨number, readInt32_ok_iff.2 hspells, rfl⟩
    | text text =>
      have hshort : text.utf8ByteSize < 32768 := Nat.lt_succ_of_le hfits
      have hstands := (htext text hshort).mpr hspells
      exact run_map_eq_ok_iff.2 ⟨text, readString_ok_iff.2 ⟨hshort, hstands⟩, rfl⟩

/-- Values are read exactly where their bytes stand one after the other. -/
theorem readAll_ok_iff : ((readAll kinds).run before).run = (.ok values, after) ↔
    values.map WireValue.kind = kinds ∧ (∀ value ∈ values, value.Fits) ∧
      before.Spells (values.flatMap WireValue.bytes) after := by
  induction kinds generalizing before values with
  | nil =>
    rw [List.map_eq_nil_iff]
    constructor
    · intro hread
      cases hread
      exact ⟨rfl, List.forall_mem_nil _, spells_nil.2 rfl⟩
    · rintro ⟨rfl, -, hspells⟩
      rw [spells_nil.1 hspells]
      rfl
  | cons kind kinds ih =>
    have hcons : readAll (kind :: kinds) = do
        let value ← readValue kind
        let rest ← readAll kinds
        return value :: rest := List.mapM_cons
    rw [hcons, run_bind_eq_ok_iff]
    simp only [run_bind_eq_ok_iff]
    constructor
    · rintro ⟨value, middle, hvalue, rest, last, hrest, hpure⟩
      cases hpure
      obtain ⟨hkind, hfits, hspells⟩ := readValue_ok_iff.1 hvalue
      obtain ⟨hkinds, hall, hothers⟩ := ih.1 hrest
      refine ⟨?_, List.forall_mem_cons.2 ⟨hfits, hall⟩, ?_⟩
      · rw [List.map_cons, hkind, hkinds]
      · rw [List.flatMap_cons]
        exact spells_append.2 ⟨middle, hspells, hothers⟩
    · rintro ⟨hkinds, hall, hspells⟩
      cases values with
      | nil => cases hkinds
      | cons value rest =>
        obtain ⟨hkind, hrest⟩ := List.cons.inj hkinds
        obtain ⟨hfits, hothers⟩ := List.forall_mem_cons.1 hall
        obtain ⟨middle, hvalue, hlater⟩ := spells_append.1 hspells
        exact ⟨value, middle, readValue_ok_iff.2 ⟨hkind, hfits, hvalue⟩, rest, after,
          ih.2 ⟨hrest, hothers, hlater⟩, rfl⟩

/-- The values of a message are read back from its payload, and nothing is left unread; of texts that
is the longest beginning whose length can be written. And values that are read from any bytes are
written as the bytes that were read. -/
theorem reading_inverts_writing (id : MessageId) :
    (∀ values : List WireValue, ∃ back after,
      ((readAll (values.map WireValue.kind)).run
        (.ofBytes (Message.writeAll { id } values).payload)).run = (.ok back, after) ∧
      after.remaining = 0 ∧ List.Forall₂ WireValue.ComesBackAs values back) ∧
    ∀ bytes kinds values after,
      ((readAll kinds).run (.ofBytes bytes)).run = (.ok values, after) →
        values.map WireValue.kind = kinds ∧
          (ofBytes bytes).Spells (Message.writeAll { id } values).payload after := by
  constructor
  · intro values
    have hpayload : (Message.writeAll { id } values).payload = values.flatMap WireValue.bytes :=
      Message.payload_writeAll { id } values
    have hbytes : (values.map WireValue.trimmed).flatMap WireValue.bytes =
        values.flatMap WireValue.bytes := by
      rw [List.flatMap_map]
      exact congrArg (values.flatMap ·) (funext WireValue.bytes_trimmed)
    rw [hpayload]
    refine ⟨values.map WireValue.trimmed, ⟨(values.flatMap WireValue.bytes).length, []⟩,
      readAll_ok_iff.2 ⟨?_, ?_, ?_⟩, rfl, ?_⟩
    · rw [List.map_map]
      exact List.map_congr_left fun value _ => value.kind_trimmed
    · rintro value hmem
      obtain ⟨written, -, rfl⟩ := List.mem_map.1 hmem
      exact written.fits_trimmed
    · rw [hbytes]
      exact spells_ofBytes _
    · rw [List.forall₂_map_right_iff, List.forall₂_same]
      exact fun value _ => value.comesBackAs_trimmed
  · intro bytes kinds values after hread
    obtain ⟨hkinds, -, hspells⟩ := readAll_ok_iff.1 hread
    have hpayload : (Message.writeAll { id } values).payload = values.flatMap WireValue.bytes :=
      Message.payload_writeAll { id } values
    rw [hpayload]
    exact ⟨hkinds, hspells⟩

/-- Three values as they stand on the wire. -/
def sampleValues : List UInt8 := [255, 255, 255, 249, 0, 4, 65, 121, 108, 97, 255]

theorem sampleValues_written_back :
    ((readAll [.int32, .text, .int8]).run (.ofBytes sampleValues)).run =
        (.ok [.int32 (-7), .text "Ayla", .int8 (-1)], ⟨11, []⟩) ∧
      (ofBytes sampleValues).Spells (Message.writeAll { id := .abilityStatus }
        [.int32 (-7), .text "Ayla", .int8 (-1)]).payload ⟨11, []⟩ := by
  have hread : ((readAll [.int32, .text, .int8]).run (.ofBytes sampleValues)).run =
      (.ok [.int32 (-7), .text "Ayla", .int8 (-1)], ⟨11, []⟩) := by
    decide +kernel
  exact ⟨hread, ((reading_inverts_writing .abilityStatus).2 _ _ _ _ hread).2⟩

end Cursor

end CharacterSim
