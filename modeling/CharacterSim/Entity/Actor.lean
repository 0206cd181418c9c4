/-! Where an entity stands in the world. -/

namespace CharacterSim

/-- Names a map instance. -/
abbrev MapId := UInt16

/-- Pixel coordinates on a map. -/
structure Position where
  x : Int32
  y : Int32
  deriving DecidableEq, Inhabited

/-- The placement of an entity. -/
structure Actor where
  map : MapId
  position : Position
  /-- The collision radius in pixels. -/
  size : UInt8
  deriving DecidableEq, Inhabited

namespace Actor

/-- The collision radius of a character. -/
def characterSize : UInt8 := 16

def ofPlace (map : MapId) (position : Position) : Actor := { map, position, size := characterSize }

/-- The actor moved to another place. -/
def moveTo (actor : Actor) (map : MapId) (position : Position) : Actor :=
  { actor with map, position }

end Actor

end CharacterSim
