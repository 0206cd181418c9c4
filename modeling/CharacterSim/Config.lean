import CharacterSim.Entity.Actor

/-! Settings of a server. -/

namespace CharacterSim

/-- Where a character reappears after death when no script sees to it. -/
structure RespawnPoint where
  map : MapId
  x : Int32
  y : Int32
  deriving DecidableEq

namespace RespawnPoint

instance : Inhabited RespawnPoint := ⟨{ map := 1, x := 1024, y := 1024 }⟩

def position (point : RespawnPoint) : Position := ⟨point.x, point.y⟩

end RespawnPoint

structure GameConfig where
  respawn : RespawnPoint := default
  deriving DecidableEq, Inhabited

end CharacterSim
