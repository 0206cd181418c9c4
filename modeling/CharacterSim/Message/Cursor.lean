import CharacterSim.Error
import CharacterSim.Message.Bytes

/-! Reading an inbound payload from front to back. A read that fails says where and why, and reading
can go on from where it left the cursor. -/

namespace CharacterSim

/-- Why a value could not be read. -/
inductive WireError where
  | truncated (offset needed available : Nat)
  | negativeLength (length : Int16)
  | invalidString (offset : Nat)
  deriving DecidableEq

instance : DomainError WireError where
  severity _ := .validation
  code
    | .truncated .. => "WIRE_TRUNCATED"
    | .negativeLength _ => "WIRE_NEGATIVE_LENGTH"
    | .invalidString _ => "WIRE_INVALID_STRING"
  message
    | .truncated offset needed available =>
      s!"message truncated: needed {needed} bytes at offset {offset}, {available} left"
    | .negativeLength length => s!"negative string length {length.toInt}"
    | .invalidString offset => s!"string at offset {offset} is not valid UTF-8"

/-- A place in a payload: how much was read, and what was not. -/
structure Cursor where
  offset : Nat
  unread : List UInt8
  deriving DecidableEq

/-- A read, which moves the cursor whether it succeeds or not. -/
abbrev Read := ExceptT WireError (StateM Cursor)

namespace Cursor

def ofBytes (bytes : List UInt8) : Cursor := ⟨0, bytes⟩

/-- How many bytes were not read. -/
def remaining (cursor : Cursor) : Nat := cursor.unread.length

/-- The next `count` bytes; nothing is read where fewer are left. -/
def take (count : Nat) : Read (List UInt8) := do
  let cursor ← get
  if cursor.remaining < count then throw (.truncated cursor.offset count cursor.remaining)
  set (Cursor.mk (cursor.offset + count) (cursor.unread.drop count))
  return cursor.unread.take count

def readInt8 : Read Int8 := do
  return (UInt8.ofNat (Bytes.toNat (← take 1))).toInt8

def readInt16 : Read Int16 := do
  return (UInt16.ofNat (Bytes.toNat (← take 2))).toInt16

def readInt32 : Read Int32 := do
  return (UInt32.ofNat (Bytes.toNat (← take 4))).toInt32

/-- A length and that many bytes of UTF-8. -/
def readString : Read String := do
  let length ← readInt16
  if length < 0 then throw (.negativeLength length)
  let start := (← get).offset
  let body ← take length.toInt.toNat
  match String.fromUTF8? ⟨body.toArray⟩ with
  | some value => return value
  | none => throw (.invalidString start)

end Cursor

end CharacterSim
