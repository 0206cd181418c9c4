import CharacterSim.Attribute.Modifier
import CharacterSim.Attribute.Registry

/-! The attribute values of one entity. Every change of a base recalculates the attribute and what
derives from it, and every change of modifiers the attribute they act on, so that no modified value is
older than what it is computed from. -/

namespace CharacterSim

/-- The state of one attribute of one entity. -/
structure AttributeRecord where
  base : Float
  modified : Float := 0.0
  modifiers : ModifierStack := .empty

/-- The attributes an entity carries. -/
structure AttributeStore where
  registry : AttributeRegistry
  records : SortedMap AttributeId AttributeRecord

namespace AttributeStore

/-- The store of an entity that carries no attribute. -/
def empty (registry : AttributeRegistry) : AttributeStore := ⟨registry, .empty⟩

def get? (store : AttributeStore) (id : AttributeId) : Option AttributeRecord :=
  store.records.get? id

/-- Whether the entity carries the attribute. -/
def contains (store : AttributeStore) (id : AttributeId) : Bool := store.records.contains id

def base? (store : AttributeStore) (id : AttributeId) : Option Float :=
  (store.get? id).map (·.base)

def modified? (store : AttributeStore) (id : AttributeId) : Option Float :=
  (store.get? id).map (·.modified)

/-- The carried attributes in ascending order. -/
def ids (store : AttributeStore) : List AttributeId := store.records.keys

def size (store : AttributeStore) : Nat := store.records.size

def isEmpty (store : AttributeStore) : Bool := store.records.isEmpty

/-- The value a derivation gives to an attribute with the given base; a source that the entity does
not carry counts as zero. -/
def derived (store : AttributeStore) (derivation : Derivation) (base : Float) : Float :=
  match derivation with
  | .base => base
  | .linear terms =>
    base + Amount.sum (terms.map fun term => term.weight * (store.base? term.source).getD 0.0)

/-- The modified value that the current bases and the modifiers of a record call for. -/
def freshValue (store : AttributeStore) (info : AttributeInfo) (record : AttributeRecord) : Float :=
  info.bounds.clamp (record.modifiers.apply (store.derived info.derivation record.base))

/-- Recomputes the modified value of an attribute, and says whether it became another number; an
amount that is no number always counts as another. -/
def recalculate (store : AttributeStore) (id : AttributeId) : AttributeStore × Bool :=
  match store.registry.get? id, store.get? id with
  | some info, some record =>
    let value := store.freshValue info record
    ({ store with records := store.records.insert id { record with modified := value } },
      record.modified != value)
  | _, _ => (store, false)

/-- Recomputes the modified value of each listed attribute in turn. -/
def recalculateEach (store : AttributeStore) (ids : List AttributeId) : AttributeStore :=
  ids.foldl (fun store id => (store.recalculate id).1) store

/-- Recomputes every modified value. -/
def recalculateAll (store : AttributeStore) : AttributeStore := store.recalculateEach store.ids

/-- The store of an entity that carries every attribute of the given kinds at its default base. -/
def forScope (registry : AttributeRegistry) (scopes : ScopeSet) : AttributeStore :=
  recalculateAll
    { registry
      records := (registry.scope scopes).foldl
        (fun records info => records.insert info.id { base := info.defaultBase }) .empty }

/-- Makes the entity carry another attribute of the catalog; `none` when it already does or when the
catalog has no such attribute. -/
def create? (store : AttributeStore) (id : AttributeId) (base : Float) : Option AttributeStore :=
  if !store.registry.contains id || store.contains id then none
  else some ({ store with records := store.records.insert id { base } }.recalculate id).1

/-- Sets a base and recalculates what follows from it. The answer lists the attributes whose records
were rewritten, in the order of recalculation; there is none when the entity does not carry `id`. -/
def setBase (store : AttributeStore) (id : AttributeId) (value : Float) :
    AttributeStore × List AttributeId :=
  match store.get? id with
  | none => (store, [])
  | some record =>
    let touched := id :: (store.registry.dependents id).filter store.contains
    ({ store with records := store.records.insert id { record with base := value } }.recalculateEach
      touched, touched)

/-- Replaces the modifiers of a record. -/
def setModifiers (store : AttributeStore) (id : AttributeId) (record : AttributeRecord)
    (modifiers : ModifierStack) : AttributeStore :=
  ({ store with records := store.records.insert id { record with modifiers } }.recalculate id).1

/-- Attaches a modifier; the answer lists the attributes whose records were rewritten. -/
def addModifier (store : AttributeStore) (id : AttributeId) (source : ModifierSource)
    (modifier : Modifier) : AttributeStore × List AttributeId :=
  match store.get? id with
  | none => (store, [])
  | some record => (store.setModifiers id record (record.modifiers.add source modifier), [id])

/-- Withdraws what a source contributed; the answer lists the attributes whose records were
rewritten, none when the source had contributed nothing. -/
def removeModifier (store : AttributeStore) (id : AttributeId) (source : ModifierSource) :
    AttributeStore × List AttributeId :=
  match store.get? id with
  | none => (store, [])
  | some record =>
    if record.modifiers.hasSource source then
      (store.setModifiers id record (record.modifiers.withdraw source), [id])
    else (store, [])

end AttributeStore

end CharacterSim
