import CharacterSim.Ability.Catalog

/-! The abilities an entity possesses and the timers that keep it from using them: one for each
ability, and the global cooldown for all. -/

namespace CharacterSim

/-- What the owner of the abilities is told, in order. -/
inductive AbilitySignal where
  /-- An ability was gained, lost, or began to recharge. -/
  | changed (id : AbilityId)
  /-- An activation began the global cooldown. -/
  | cooldownStarted
  deriving DecidableEq

/-- Why an activation is refused. -/
inductive AbilityDenied where
  | globalCooldown
  | unknownAbility (id : AbilityId)
  | recharging (id : AbilityId)
  deriving DecidableEq

/-- The name of a refusal. -/
def AbilityDenied.label : AbilityDenied → String
  | globalCooldown => "GlobalCooldown"
  | unknownAbility _ => "UnknownAbility"
  | recharging _ => "Recharging"

def AbilityDenied.message : AbilityDenied → String
  | globalCooldown => "global cooldown is still running"
  | unknownAbility id => s!"{id.text} is not possessed by this entity"
  | recharging id => s!"{id.text} is still recharging"

/-- The abilities of an entity, each with the time until it can be used again. -/
structure Abilities where
  catalog : AbilityCatalog
  remaining : SortedMap AbilityId Duration
  globalCooldown : Duration
  signals : List AbilitySignal

namespace Abilities

/-- No ability of the catalog is possessed. -/
def ofCatalog (catalog : AbilityCatalog) : Abilities :=
  { catalog, remaining := .empty, globalCooldown := .zero, signals := [] }

/-- The time until a possessed ability can be used again, the global cooldown aside. -/
def remaining? (abilities : Abilities) (id : AbilityId) : Option Duration :=
  abilities.remaining.get? id

/-- Whether the ability is possessed. -/
def has (abilities : Abilities) (id : AbilityId) : Bool := abilities.remaining.contains id

/-- The possessed abilities in ascending order. -/
def ids (abilities : Abilities) : List AbilityId := abilities.remaining.keys

/-- Grants an ability, ready for use; `none` when the catalog does not offer it or it is possessed
already. -/
def give? (abilities : Abilities) (id : AbilityId) : Option Abilities :=
  if !abilities.catalog.contains id || abilities.has id then none
  else some { abilities with
    remaining := abilities.remaining.insert id .zero
    signals := abilities.signals ++ [.changed id] }

/-- Withdraws an ability; `none` when it is not possessed. -/
def take? (abilities : Abilities) (id : AbilityId) : Option Abilities :=
  if abilities.has id then
    some { abilities with
      remaining := abilities.remaining.erase id
      signals := abilities.signals ++ [.changed id] }
  else none

/-- Uses an ability, which starts its recharge and the global cooldown. -/
def activate (abilities : Abilities) (id : AbilityId) : Except AbilityDenied Abilities :=
  if !abilities.globalCooldown.isZero then .error .globalCooldown
  else match abilities.remaining? id with
    | none => .error (.unknownAbility id)
    | some remaining =>
      if !remaining.isZero then .error (.recharging id)
      else .ok { abilities with
        remaining := abilities.remaining.insert id (abilities.catalog.recharge id)
        globalCooldown := abilities.catalog.globalCooldown
        signals := abilities.signals ++ [.changed id, .cooldownStarted] }

/-- Lets time pass for every timer. -/
def tick (abilities : Abilities) (elapsed : Duration) : Abilities :=
  { abilities with
    remaining := abilities.remaining.mapValues fun _ remaining => remaining - elapsed
    globalCooldown := abilities.globalCooldown - elapsed }

/-- The abilities with their signals taken. -/
def clearSignals (abilities : Abilities) : Abilities := { abilities with signals := [] }

theorem remaining?_tick (abilities : Abilities) (elapsed : Duration) (id : AbilityId) :
    (abilities.tick elapsed).remaining? id = (abilities.remaining? id).map (· - elapsed) :=
  SortedMap.get?_mapValues abilities.remaining _ id

end Abilities

end CharacterSim
