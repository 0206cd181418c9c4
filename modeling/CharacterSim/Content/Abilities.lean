import CharacterSim.Ability.Catalog
import CharacterSim.Content.Error
import CharacterSim.Ron.Fields
import CharacterSim.Ron.Reader

/-! Ability catalogs written in RON. -/

namespace CharacterSim

/-- One ability as a catalog lists it. -/
structure AbilityEntry where
  id : UInt8
  name : String
  rechargeMillis : UInt64

namespace AbilityEntry

def info (entry : AbilityEntry) : AbilityInfo where
  id := ⟨entry.id⟩
  name := entry.name
  recharge := .ofMillis entry.rechargeMillis.toNat

def ofRon? (extensions : RonExtensions) (value : RonValue) : Option AbilityEntry := do
  let fields ← value.fields? extensions "AbilityRon"
  return {
    id := .ofNat (← RonFields.required? fields "id" (RonValue.unsigned? 8))
    name := ← RonFields.required? fields "name" RonValue.text?
    rechargeMillis := .ofNat (← RonFields.required? fields "recharge_ms" (RonValue.unsigned? 64)) }

/-- The global cooldown, in milliseconds, and the entries of a document. -/
def ofDocument? (document : RonDocument) : Option (Nat × List AbilityEntry) := do
  let fields ← document.value.fields? document.extensions "AbilityCatalogRon"
  let cooldown ← RonFields.optional? fields "global_cooldown_ms"
    AbilityCatalog.defaultGlobalCooldown.wholeMillis (RonValue.unsigned? 64)
  let entries ← RonFields.required? fields "abilities" (RonValue.list? (ofRon? document.extensions))
  return (cooldown, entries)

/-- The global cooldown and the entries that a text is read as. -/
def ofText? (text : String) : Option (Nat × List AbilityEntry) :=
  Ron.document.ofText? text >>= ofDocument?

/-- The first entry whose id an earlier one has. -/
def repeated? (seen : List UInt8) : List AbilityEntry → Option UInt8
  | [] => none
  | entry :: rest =>
    if seen.contains entry.id then some entry.id else repeated? (entry.id :: seen) rest

end AbilityEntry

namespace AbilityCatalog

/-- The catalog of the listed abilities, no two of which may have one id. -/
def ofEntries (cooldownMillis : Nat) (entries : List AbilityEntry) :
    Except ContentError AbilityCatalog :=
  match AbilityEntry.repeated? [] entries with
  | some id => .error (.ofText s!"Ability {id.toNat} is defined more than once")
  | none => .ok (ofList (entries.map AbilityEntry.info) (.ofMillis cooldownMillis))

/-- The catalog that a text describes to a reader. -/
def ofReader (read : String → Option (Nat × List AbilityEntry)) (text : String) :
    Except ContentError AbilityCatalog :=
  match read text with
  | some (cooldown, entries) => ofEntries cooldown entries
  | none => .error (.ofText "Failed to parse ability catalog RON")

/-- The catalog that a text in RON describes. -/
def ofRon (text : String) : Except ContentError AbilityCatalog :=
  ofReader AbilityEntry.ofText? text

end AbilityCatalog

end CharacterSim
