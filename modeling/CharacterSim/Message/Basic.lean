import CharacterSim.Message.Bytes

/-! Messages to a game client: a numeric kind and a payload of big-endian integers and of strings with
a 16-bit byte length before them. -/

namespace CharacterSim

/-- The kinds of message, each with its payload. -/
inductive MessageId where
  /-- Repeated: attribute i16, base i32, modified i32, both in fixed point. -/
  | playerAttributeChange
  /-- Attribute points i16, correction points i16. -/
  | attributePointsStatus
  /-- Repeated: ability i8, milliseconds of recharge left i32. -/
  | abilityStatus
  /-- Milliseconds of global cooldown left i16. -/
  | abilityCooldown
  /-- The NPC whose window closes i16. -/
  | npcClose
  deriving DecidableEq

namespace MessageId

def code : MessageId → UInt16
  | playerAttributeChange => 0x0130
  | attributePointsStatus => 0x0140
  | abilityStatus => 0x0293
  | abilityCooldown => 0x0295
  | npcClose => 0x02B5

def text : MessageId → String
  | playerAttributeChange => "PLAYER_ATTRIBUTE_CHANGE"
  | attributePointsStatus => "ATTRIBUTE_POINTS_STATUS"
  | abilityStatus => "ABILITY_STATUS"
  | abilityCooldown => "ABILITY_COOLDOWN"
  | npcClose => "NPC_CLOSE"

/-- The spelling of a kind in log events. -/
def label : MessageId → String
  | playerAttributeChange => "PlayerAttributeChange"
  | attributePointsStatus => "AttributePointsStatus"
  | abilityStatus => "AbilityStatus"
  | abilityCooldown => "AbilityCooldown"
  | npcClose => "NpcClose"

def all : List MessageId :=
  [playerAttributeChange, attributePointsStatus, abilityStatus, abilityCooldown, npcClose]

end MessageId

/-- A message under construction. -/
structure Message where
  id : MessageId
  payload : List UInt8 := []
  deriving DecidableEq

namespace Message

/-- The most bytes a string may have on the wire. -/
def longestString : Nat := 32767

/-- The longest beginning whose characters take at most `limit` bytes together. -/
def fitting (limit : Nat) : List Char → List Char
  | [] => []
  | char :: rest =>
    if char.utf8Size ≤ limit then char :: fitting (limit - char.utf8Size) rest else []

def encodeInt8 (value : Int8) : List UInt8 := Bytes.bigEndian 1 value.toUInt8.toNat

def encodeInt16 (value : Int16) : List UInt8 := Bytes.bigEndian 2 value.toUInt16.toNat

def encodeInt32 (value : Int32) : List UInt8 := Bytes.bigEndian 4 value.toUInt32.toNat

/-- Length and bytes of a string, cut at the end of a character to what a length can describe. -/
def encodeString (value : String) : List UInt8 :=
  let body := (fitting longestString value.toList).flatMap String.utf8EncodeChar
  encodeInt16 (.ofNat body.length) ++ body

def append (message : Message) (bytes : List UInt8) : Message :=
  { message with payload := message.payload ++ bytes }

def writeInt8 (message : Message) (value : Int8) : Message := message.append (encodeInt8 value)

def writeInt16 (message : Message) (value : Int16) : Message := message.append (encodeInt16 value)

def writeInt32 (message : Message) (value : Int32) : Message := message.append (encodeInt32 value)

def writeString (message : Message) (value : String) : Message :=
  message.append (encodeString value)

/-- Whether nothing was written after the kind. -/
def isEmpty (message : Message) : Bool := message.payload.isEmpty

/-- The whole frame: the kind and then the payload. -/
def toBytes (message : Message) : List UInt8 :=
  Bytes.bigEndian 2 message.id.code.toNat ++ message.payload

end Message

end CharacterSim
