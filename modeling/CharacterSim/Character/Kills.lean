import CharacterSim.Collections.SortedMap

/-! How many monsters of each species a character has killed. -/

namespace CharacterSim

/-- Names a species of monster. -/
structure MonsterTypeId where
  val : UInt16
  deriving DecidableEq, Inhabited

instance : Ranked MonsterTypeId where
  rank id := id.val.toNat
  rank_injective := by
    rintro ⟨first⟩ ⟨second⟩ h
    exact congrArg _ (UInt16.toNat_inj.1 h)

structure KillCounts where
  counts : SortedMap MonsterTypeId UInt32

namespace KillCounts

def empty : KillCounts := ⟨.empty⟩

instance : Inhabited KillCounts := ⟨empty⟩

/-- The count of a species, zero when none was killed. -/
def get (kills : KillCounts) (monster : MonsterTypeId) : UInt32 :=
  (kills.counts.get? monster).getD 0

/-- One more; the highest count stays. -/
def next (count : UInt32) : UInt32 :=
  if count = UInt32.ofNat (UInt32.size - 1) then count else count + 1

def increment (kills : KillCounts) (monster : MonsterTypeId) : KillCounts :=
  ⟨kills.counts.insert monster (next (kills.get monster))⟩

/-- Sets a count that was kept elsewhere. -/
def restore (kills : KillCounts) (monster : MonsterTypeId) (count : UInt32) : KillCounts :=
  ⟨kills.counts.insert monster count⟩

def toList (kills : KillCounts) : List (MonsterTypeId × UInt32) := kills.counts.entries

end KillCounts

end CharacterSim
