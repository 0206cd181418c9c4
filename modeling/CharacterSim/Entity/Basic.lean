import CharacterSim.Ability.Possessed
import CharacterSim.Entity.Actor
import CharacterSim.Entity.Being

/-! An entity is an identity with at most one component of each kind. A slot may also be taken by a
component that is not the library's own; access to the library's component then finds nothing. -/

namespace CharacterSim

/-- Names an entity of the simulation. -/
structure EntityId where
  val : UInt32
  deriving DecidableEq, Inhabited

namespace EntityId

instance : Ranked EntityId where
  rank id := id.val.toNat
  rank_injective := by
    rintro ⟨first⟩ ⟨second⟩ h
    exact congrArg _ (UInt32.toNat_inj.1 h)

def text (id : EntityId) : String := s!"#{id.val.toNat}"

end EntityId

/-- The kinds of component, in the order in which an entity lists them. -/
inductive ComponentKind where
  | being
  | actor
  | ability
  deriving DecidableEq

namespace ComponentKind

def text : ComponentKind → String
  | being => "being"
  | actor => "actor"
  | ability => "ability"

/-- The spelling of a kind in descriptions of an entity. -/
def label : ComponentKind → String
  | being => "Being"
  | actor => "Actor"
  | ability => "Ability"

end ComponentKind

/-- The place for one component. -/
inductive Slot (α : Type) where
  | vacant
  | held (component : α)
  /-- Taken by a component of another make. -/
  | foreign (tag : Int)

namespace Slot

variable {α : Type}

def get? : Slot α → Option α
  | held component => some component
  | _ => none

def foreign? : Slot α → Option Int
  | foreign tag => some tag
  | _ => none

def isTaken : Slot α → Bool
  | vacant => false
  | _ => true

/-- Changes the component if it is there. -/
def update (change : α → α) : Slot α → Slot α
  | held component => held (change component)
  | other => other

end Slot

/-- An entity and its components. -/
structure Entity where
  id : EntityId
  being : Slot Being := .vacant
  actor : Slot Actor := .vacant
  abilities : Slot Abilities := .vacant

namespace Entity

/-- The kinds of the components an entity has. -/
def kinds (entity : Entity) : List ComponentKind :=
  (if entity.being.isTaken then [.being] else [])
    ++ (if entity.actor.isTaken then [.actor] else [])
    ++ (if entity.abilities.isTaken then [.ability] else [])

def being? (entity : Entity) : Option Being := entity.being.get?

def actor? (entity : Entity) : Option Actor := entity.actor.get?

def abilities? (entity : Entity) : Option Abilities := entity.abilities.get?

def setBeing (entity : Entity) (being : Being) : Entity := { entity with being := .held being }

def setActor (entity : Entity) (actor : Actor) : Entity := { entity with actor := .held actor }

def setAbilities (entity : Entity) (abilities : Abilities) : Entity :=
  { entity with abilities := .held abilities }

def updateBeing (entity : Entity) (change : Being → Being) : Entity :=
  { entity with being := entity.being.update change }

def updateActor (entity : Entity) (change : Actor → Actor) : Entity :=
  { entity with actor := entity.actor.update change }

def updateAbilities (entity : Entity) (change : Abilities → Abilities) : Entity :=
  { entity with abilities := entity.abilities.update change }

/-- Takes the component of a kind away, of whatever make it is. -/
def remove (entity : Entity) : ComponentKind → Entity
  | .being => { entity with being := .vacant }
  | .actor => { entity with actor := .vacant }
  | .ability => { entity with abilities := .vacant }

end Entity

end CharacterSim
