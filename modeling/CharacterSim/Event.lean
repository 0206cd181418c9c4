import CharacterSim.Entity.Basic

/-! What a server announces about the characters it hosts. -/

namespace CharacterSim

/-- What became of a character whose client is gone. -/
inductive Disconnect where
  /-- It was dead and has been revived. -/
  | respawned
  /-- It was alive and is to leave the world. -/
  | removed
  deriving DecidableEq

def Disconnect.text : Disconnect → String
  | respawned => "respawned"
  | removed => "removed"

inductive ServerEvent where
  | loggedIn (entity : EntityId) (databaseId : Int32)
  | disconnected (entity : EntityId) (outcome : Disconnect)
  /-- A character left; the place is where it is to be kept. -/
  | removed (entity : EntityId) (databaseId : Int32) (map : MapId) (position : Position)
  deriving DecidableEq

/-- A view of a character for the host. -/
structure CharacterStatus where
  entity : EntityId
  databaseId : Int32
  name : String
  lifecycle : LifecycleState
  map : MapId
  position : Position
  attributePoints : UInt32
  correctionPoints : UInt32
  deriving DecidableEq

end CharacterSim
