import CharacterSim.Attribute.Store
import CharacterSim.Entity.Lifecycle

/-! A living thing: its name, whether it lives, and its attributes. Attributes whose records are
rewritten are remembered until the owner of the being takes note of them. -/

namespace CharacterSim

structure Being where
  name : String
  lifecycle : LifecycleState
  attributes : AttributeStore
  /-- The attributes rewritten since the owner last took note. -/
  changed : SortedSet AttributeId

namespace Being

/-- A living being of which nothing has changed yet. -/
def ofStore (name : String) (attributes : AttributeStore) : Being :=
  { name, lifecycle := .alive, attributes, changed := .empty }

def isDead (being : Being) : Bool := being.lifecycle.isDead

def base? (being : Being) (id : AttributeId) : Option Float := being.attributes.base? id

def modified? (being : Being) (id : AttributeId) : Option Float := being.attributes.modified? id

/-- Takes over a store in which the listed attributes were rewritten. -/
def rewritten (being : Being) (result : AttributeStore × List AttributeId) : Being :=
  { being with attributes := result.1, changed := being.changed.insertAll result.2 }

/-- Sets a base; the answer is whether the being carries the attribute. -/
def setAttribute (being : Being) (id : AttributeId) (value : Float) : Being × Bool :=
  let result := being.attributes.setBase id value
  (being.rewritten result, !result.2.isEmpty)

/-- Recomputes a modified value, which is a change when it becomes another number. -/
def recalculate (being : Being) (id : AttributeId) : Being :=
  let result := being.attributes.recalculate id
  being.rewritten (result.1, if result.2 then [id] else [])

def addModifier (being : Being) (id : AttributeId) (source : ModifierSource)
    (modifier : Modifier) : Being :=
  being.rewritten (being.attributes.addModifier id source modifier)

def removeModifier (being : Being) (id : AttributeId) (source : ModifierSource) : Being :=
  being.rewritten (being.attributes.removeModifier id source)

/-- The being with its changes taken note of. -/
def clearChanged (being : Being) : Being := { being with changed := .empty }

def die (being : Being) : Except LifecycleError Being :=
  being.lifecycle.die.map fun lifecycle => { being with lifecycle }

def revive (being : Being) : Except LifecycleError Being :=
  being.lifecycle.revive.map fun lifecycle => { being with lifecycle }

end Being

end CharacterSim
