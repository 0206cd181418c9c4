import CharacterSim.Character.Login

/-! Formats of character data written down as a list of calls. -/

namespace CharacterSim

/-- One call of a format. -/
inductive LoginCall where
  | attributePoints (points : UInt32)
  | correctionPoints (points : UInt32)
  | base (id : AttributeId) (value : Float)
  | location (map : MapId) (position : Position)
  | kills (monster : MonsterTypeId) (count : UInt32)
  | ability (id : AbilityId)
  | skipInt8
  | skipInt16
  | skipInt32
  | skipString
  | invalid (field : String) (value : Int)

namespace LoginCall

/-- Makes the call; a value that is read is dropped. -/
def run : LoginCall → Load Unit
  | attributePoints points => Load.setAttributePoints points
  | correctionPoints points => Load.setCorrectionPoints points
  | base id value => Load.setBase id value
  | location map position => Load.setLocation map position
  | kills monster count => Load.setKillCount monster count
  | ability id => Load.giveAbility id
  | skipInt8 => discard (Load.read Cursor.readInt8)
  | skipInt16 => discard (Load.read Cursor.readInt16)
  | skipInt32 => discard (Load.read Cursor.readInt32)
  | skipString => discard (Load.read Cursor.readString)
  | invalid field value => throw (.invalidValue field value)

/-- The format that makes the calls of a list in order. -/
def format : List LoginCall → Load Unit
  | [] => return ()
  | call :: rest => do
    call.run
    format rest

end LoginCall

end CharacterSim
