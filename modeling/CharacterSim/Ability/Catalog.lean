import CharacterSim.Collections.SortedMap
import CharacterSim.Numeric.Duration

/-! The abilities a server offers, each with its recharge, and the cooldown that every activation
imposes on all of them. -/

namespace CharacterSim

/-- Names an ability. -/
structure AbilityId where
  val : UInt8
  deriving DecidableEq, Inhabited

namespace AbilityId

instance : Ranked AbilityId where
  rank id := id.val.toNat
  rank_injective := by
    rintro ⟨first⟩ ⟨second⟩ h
    exact congrArg _ (UInt8.toNat_inj.1 h)

def text (id : AbilityId) : String := s!"ability:{id.val.toNat}"

end AbilityId

/-- The definition of one ability. -/
structure AbilityInfo where
  id : AbilityId
  name : String
  recharge : Duration

/-- The abilities on offer. -/
structure AbilityCatalog where
  table : SortedMap AbilityId AbilityInfo
  globalCooldown : Duration

namespace AbilityCatalog

/-- The cooldown where none is configured: one second. -/
def defaultGlobalCooldown : Duration := .ofMillis 1000

/-- A later definition of an ability replaces an earlier one. -/
def ofList (infos : List AbilityInfo) (globalCooldown : Duration := defaultGlobalCooldown) :
    AbilityCatalog :=
  { table := .ofList (infos.map fun info => (info.id, info)), globalCooldown }

def empty : AbilityCatalog := ofList []

instance : Inhabited AbilityCatalog := ⟨empty⟩

def get? (catalog : AbilityCatalog) (id : AbilityId) : Option AbilityInfo := catalog.table.get? id

def contains (catalog : AbilityCatalog) (id : AbilityId) : Bool := catalog.table.contains id

/-- The definitions in ascending order of id. -/
def infos (catalog : AbilityCatalog) : List AbilityInfo := catalog.table.values

def size (catalog : AbilityCatalog) : Nat := catalog.table.size

def isEmpty (catalog : AbilityCatalog) : Bool := catalog.table.isEmpty

/-- The recharge of an ability; none for one that is not on offer. -/
def recharge (catalog : AbilityCatalog) (id : AbilityId) : Duration :=
  match catalog.get? id with
  | some info => info.recharge
  | none => .zero

end AbilityCatalog

end CharacterSim
