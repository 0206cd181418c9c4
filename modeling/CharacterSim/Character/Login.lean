import CharacterSim.Character.Basic
import CharacterSim.Message.Cursor

/-! Building a character from the message the account server hands over at login: database id, name,
and then the data of the character in a format of the server's choice. -/

namespace CharacterSim

/-- Why a login message makes no character. -/
inductive ConstructionError where
  | wire (error : WireError)
  | unknownAttribute (id : AttributeId)
  | unknownAbility (id : AbilityId)
  | invalidValue (field : String) (value : Int)
  deriving DecidableEq

instance : DomainError ConstructionError where
  severity _ := .validation
  code
    | .wire error => DomainError.code error
    | .unknownAttribute _ => "CONSTRUCT_UNKNOWN_ATTRIBUTE"
    | .unknownAbility _ => "CONSTRUCT_UNKNOWN_ABILITY"
    | .invalidValue .. => "CONSTRUCT_INVALID_VALUE"
  message
    | .wire error => DomainError.message error
    | .unknownAttribute id => s!"character data references unknown attribute {id.text}"
    | .unknownAbility id => s!"character data references unknown ability {id.text}"
    | .invalidValue field value => s!"field `{field}` has invalid value {value}"

/-- A character whose data are being read. -/
structure CharacterData where
  being : Being
  actor : Actor
  abilities : Abilities
  ledger : ProgressionLedger := {}
  kills : KillCounts := .empty

namespace CharacterData

/-- A character before any of its data were read. -/
def initial (context : CharacterContext) (name : String) : CharacterData where
  being := .ofStore name (.forScope context.registry .character)
  actor := .ofPlace context.config.respawn.map context.config.respawn.position
  abilities := .ofCatalog context.abilities

end CharacterData

/-- Data read so far, and the place in the message. -/
structure LoadState where
  data : CharacterData
  cursor : Cursor

/-- A format of character data: what it reads from the message and sets on the character. -/
abbrev Load := ExceptT ConstructionError (StateM LoadState)

namespace Load

/-- A read of the message. -/
def read {α : Type} (reader : Read α) : Load α := do
  let state ← get
  let (outcome, cursor) := (reader.run state.cursor).run
  set { state with cursor }
  match outcome with
  | .ok value => return value
  | .error error => throw (.wire error)

def modifyData (change : CharacterData → CharacterData) : Load Unit :=
  modify fun state => { state with data := change state.data }

/-- A number that may not be negative. -/
def nonNegative (field : String) (value : Int) : Load Nat :=
  if value < 0 then throw (.invalidValue field value) else return value.toNat

/-- A 16-bit number that may not be negative. -/
def count (field : String) : Load Nat := do nonNegative field (← read Cursor.readInt16).toInt

def setAttributePoints (points : UInt32) : Load Unit :=
  modifyData fun data => { data with ledger := data.ledger.setAttributePoints points }

def setCorrectionPoints (points : UInt32) : Load Unit :=
  modifyData fun data => { data with ledger := data.ledger.setCorrectionPoints points }

/-- Sets a base that the character has to carry. -/
def setBase (id : AttributeId) (value : Float) : Load Unit := do
  let (being, applied) := (← get).data.being.setAttribute id value
  modifyData ({ · with being })
  unless applied do throw (.unknownAttribute id)

def setLocation (map : MapId) (position : Position) : Load Unit :=
  modifyData fun data => { data with actor := data.actor.moveTo map position }

def setKillCount (monster : MonsterTypeId) (kills : UInt32) : Load Unit :=
  modifyData fun data => { data with kills := data.kills.restore monster kills }

/-- Grants an ability that the catalog has to offer; one granted before is no mistake. -/
def giveAbility (id : AbilityId) : Load Unit := do
  let abilities := (← get).data.abilities
  match abilities.give? id with
  | some abilities => modifyData ({ · with abilities })
  | none => unless abilities.has id do throw (.unknownAbility id)

/-- Reads so many entries. -/
def repeated (entry : Load Unit) : Nat → Load Unit
  | 0 => return ()
  | more + 1 => do
    entry
    repeated entry more

/-- An attribute and its base in fixed point. -/
def attributeEntry : Load Unit := do
  let id ← count "attribute_id"
  let base ← read Cursor.readInt32
  setBase ⟨.ofNat id⟩ (Amount.ofFixedPoint base)

/-- A species of monster and how many were killed. -/
def killEntry : Load Unit := do
  let monster ← count "monster"
  let kills ← nonNegative "kill_count" (← read Cursor.readInt32).toInt
  setKillCount ⟨.ofNat monster⟩ (.ofNat kills)

def abilityEntry : Load Unit := do giveAbility ⟨(← read Cursor.readInt8).toUInt8⟩

/-- The format of the account server. Attribute points, correction points, a count of attributes each
with its base in fixed point, the map and the coordinates, a count of kill entries, and a count of
abilities. What follows is not read. -/
def standard : Load Unit := do
  let attributePoints ← count "attribute_points"
  let correctionPoints ← count "correction_points"
  setAttributePoints (.ofNat attributePoints)
  setCorrectionPoints (.ofNat correctionPoints)
  repeated attributeEntry (← count "attribute_count")
  let map ← count "map"
  let x ← read Cursor.readInt16
  let y ← read Cursor.readInt16
  setLocation (.ofNat map) ⟨x.toInt32, y.toInt32⟩
  repeated killEntry (← count "kill_entries")
  repeated abilityEntry (← count "ability_count")

end Load

namespace Character

/-- Database id and name, with which every login message begins. -/
def readHeader : Read (Int32 × String) := do
  let databaseId ← Cursor.readInt32
  let name ← Cursor.readString
  return (databaseId, name)

/-- The character that read data describe. What was read is no change; instead the whole state is
marked for the first flush. -/
def ofData (id : EntityId) (context : CharacterContext) (client : Option ClientId)
    (databaseId : Int32) (data : CharacterData) : Step Character := do
  let character ← modifiedAllAttributes
    { databaseId, context, client
      entity :=
        { id
          being := .held data.being.clearChanged
          actor := .held data.actor
          abilities := .held data.abilities.clearSignals }
      ledger := data.ledger
      kills := data.kills }
  return { character with dirty := data.abilities.ids.foldl .markAbility character.dirty }

/-- Builds a character from a login message. The cursor of the answer is where reading stopped. -/
def ofMessage (id : EntityId) (context : CharacterContext) (format : Load Unit)
    (client : Option ClientId) (message : Cursor) :
    Step (Except ConstructionError Character × Cursor) := do
  match (readHeader.run message).run with
  | (.error error, cursor) => return (.error (.wire error), cursor)
  | (.ok (databaseId, name), cursor) =>
    let data := CharacterData.initial context name
    Step.log .debug "character creation: initialising attributes"
      [("attributes", s!"{data.being.attributes.size}")]
    match (format.run { data, cursor }).run with
    | (.error error, state) => return (.error error, state.cursor)
    | (.ok (), state) =>
      return (.ok (← ofData id context client databaseId state.data), state.cursor)

end Character

end CharacterSim
