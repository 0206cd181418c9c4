import CharacterSim.Character.Kills
import CharacterSim.Character.Progression
import CharacterSim.Character.Transaction
import CharacterSim.Config
import CharacterSim.Script.Basic
import CharacterSim.Sync.DirtySets

/-! A player's character: an entity with what only players have. Changes of its components leave
signals behind, and its client is told of them when they are flushed. -/

namespace CharacterSim

/-- What the characters of a server share. -/
structure CharacterContext where
  registry : AttributeRegistry
  abilities : AbilityCatalog := .empty
  callbacks : ScriptCallbacks := {}
  config : GameConfig := {}

/-- Names an NPC. -/
abbrev NpcId := UInt16

/-- A running conversation with an NPC. -/
structure Dialogue where
  npc : NpcId
  thread : ScriptThread

structure Character where
  databaseId : Int32
  entity : Entity
  context : CharacterContext
  client : Option ClientId
  connected : Bool := true
  transaction : Transaction := .none
  ledger : ProgressionLedger := {}
  kills : KillCounts := .empty
  dirty : DirtySets := {}
  dialogue : Option Dialogue := none
  /-- What the callbacks were given for it. -/
  scripted : ScriptHistory := []

namespace Character

def id (character : Character) : EntityId := character.entity.id

/-! ### Components

A character is built with a component of every kind. A script may take one away; the operations that
need it are then mistaken. -/

def requireBeing (character : Character) : Step Being :=
  Step.require .being character.entity.being?

def requireActor (character : Character) : Step Actor :=
  Step.require .actor character.entity.actor?

def requireAbilities (character : Character) : Step Abilities :=
  Step.require .ability character.entity.abilities?

def withBeing (character : Character) (being : Being) : Character :=
  { character with entity := character.entity.setBeing being }

def withAbilities (character : Character) (abilities : Abilities) : Character :=
  { character with entity := character.entity.setAbilities abilities }

def name (character : Character) : Step String := return (← character.requireBeing).name

def place (character : Character) : Step (MapId × Position) := do
  let actor ← character.requireActor
  return (actor.map, actor.position)

def lifecycleState (character : Character) : Step LifecycleState :=
  return (← character.requireBeing).lifecycle

def isDead (character : Character) : Step Bool := return (← character.requireBeing).isDead

def base? (character : Character) (id : AttributeId) : Step (Option Float) :=
  return (← character.requireBeing).base? id

def modified? (character : Character) (id : AttributeId) : Step (Option Float) :=
  return (← character.requireBeing).modified? id

def hasAbility (character : Character) (id : AbilityId) : Step Bool :=
  return (← character.requireAbilities).has id

def globalCooldown (character : Character) : Step Duration :=
  return (← character.requireAbilities).globalCooldown

/-- The NPC the character talks to. -/
def talkingTo? (character : Character) : Option NpcId := character.dialogue.map (·.npc)

/-! ### Telling the client -/

/-- Hands a message to the client, if there is one. -/
def send (character : Character) (message : Message) : Step Unit :=
  match character.client with
  | some client => Step.emit [.sent client message]
  | none =>
    Step.log .debug "dropping message for detached character" [("id", message.id.label)]

/-- Hands messages to the client one after the other. -/
def sendAll (character : Character) : List Message → Step Unit
  | [] => return ()
  | message :: rest => do
    character.send message
    character.sendAll rest

/-- The values that a flush reads. -/
def syncSource (character : Character) : SyncSource where
  values? id := do
    let record ← (← character.entity.being?).attributes.get? id
    return (record.base, record.modified)
  remaining? id := do (← character.entity.abilities?).remaining? id
  globalCooldown := (character.entity.abilities?.map (·.globalCooldown)).getD .zero
  attributePoints := character.ledger.attributePoints
  correctionPoints := character.ledger.correctionPoints

/-- What the account server is told of changed attributes. -/
def updates (databaseId : Int32) (being : Being) (ids : List AttributeId) : List Effect :=
  ids.filterMap fun id => (being.attributes.get? id).map fun record =>
    .reported { databaseId, id, base := record.base, modified := record.modified }

/-- Marks what a signal of the abilities tells of. -/
def markSignal (dirty : DirtySets) : AbilitySignal → DirtySets
  | .changed id => dirty.markAbility id
  | .cooldownStarted => dirty.markCooldown

/-- Takes note of every signal: changed attributes are reported to the account server, and all that
changed is marked. -/
def absorb (character : Character) : Step Character := do
  let being ← character.requireBeing
  let changed := being.changed.toList
  Step.emit (updates character.databaseId being changed)
  let abilities ← character.requireAbilities
  let dirty := abilities.signals.foldl markSignal (changed.foldl .markAttribute character.dirty)
  return { (character.withBeing being.clearChanged).withAbilities abilities.clearSignals with
    dirty := if character.ledger.changed then dirty.markPoints else dirty
    ledger := character.ledger.clearChanged }

/-- Sends and clears the selected channels. -/
def flush (character : Character) (channels : SyncChannels) : Step Character := do
  let (messages, dirty) := character.dirty.flush character.syncSource channels
  character.sendAll messages
  return { character with dirty }

/-! ### Every tick -/

/-- Lets time pass for the abilities. -/
def tick (character : Character) (elapsed : Duration) : Step Character :=
  return character.withAbilities ((← character.requireAbilities).tick elapsed)

/-- Sends changes of abilities, cooldown and points; the dead send nothing. -/
def update (character : Character) : Step Character := do
  let character ← character.absorb
  if ← character.isDead then return character
  character.flush .characterStatus

/-- Sends changes of attributes. -/
def sendStatus (character : Character) : Step Character := do
  (← character.absorb).flush .attributes

/-- The channels that hold something to send. -/
def pendingSync (character : Character) : Step (Character × SyncChannels) := do
  let character ← character.absorb
  return (character, character.dirty.pending)

/-- Recalculates every attribute and marks all of them, which the account server is not told of. -/
def modifiedAllAttributes (character : Character) : Step Character := do
  Step.log .debug "marking all attributes as changed, requiring recalculation"
  let being ← character.requireBeing
  let ids := being.attributes.ids
  let being := ids.foldl .recalculate being
  return { character.withBeing being.clearChanged with
    dirty := ids.foldl .markAttribute character.dirty }

/-! ### Attributes, points, abilities -/

/-- The answer is whether the character carries the attribute. -/
def setBase (character : Character) (id : AttributeId) (value : Float) :
    Step (Character × Bool) := do
  let (being, applied) := (← character.requireBeing).setAttribute id value
  return (character.withBeing being, applied)

def addModifier (character : Character) (id : AttributeId) (source : ModifierSource)
    (modifier : Modifier) : Step Character :=
  return character.withBeing ((← character.requireBeing).addModifier id source modifier)

def removeModifier (character : Character) (id : AttributeId) (source : ModifierSource) :
    Step Character :=
  return character.withBeing ((← character.requireBeing).removeModifier id source)

def setAttributePoints (character : Character) (points : UInt32) : Character :=
  { character with ledger := character.ledger.setAttributePoints points }

def setCorrectionPoints (character : Character) (points : UInt32) : Character :=
  { character with ledger := character.ledger.setCorrectionPoints points }

def usePoint (character : Character) (id : AttributeId) : Step (Character × SpendResponse) := do
  let (ledger, being, response) := character.ledger.usePoint (← character.requireBeing) id
  return ({ character.withBeing being with ledger }, response)

def useCorrection (character : Character) (id : AttributeId) :
    Step (Character × SpendResponse) := do
  let (ledger, being, response) := character.ledger.useCorrection (← character.requireBeing) id
  return ({ character.withBeing being with ledger }, response)

/-- Uses an ability, or says why it cannot be used. -/
def activateAbility (character : Character) (id : AbilityId) :
    Step (Character × Except AbilityDenied Unit) := do
  match (← character.requireAbilities).activate id with
  | .ok abilities => return (character.withAbilities abilities, .ok ())
  | .error denied =>
    Step.log .warn "ability activation denied"
      [("character", s!"{character.databaseId.toInt}"), ("denied", denied.message)]
    return (character, .error denied)

/-- The answer is whether the ability was granted. -/
def giveAbility (character : Character) (id : AbilityId) : Step (Character × Bool) := do
  match (← character.requireAbilities).give? id with
  | some abilities => return (character.withAbilities abilities, true)
  | none => return (character, false)

/-- The answer is whether the ability was withdrawn. -/
def takeAbility (character : Character) (id : AbilityId) : Step (Character × Bool) := do
  match (← character.requireAbilities).take? id with
  | some abilities => return (character.withAbilities abilities, true)
  | none => return (character, false)

def incrementKillCount (character : Character) (monster : MonsterTypeId) : Character :=
  { character with kills := character.kills.increment monster }

/-! ### Transactions -/

def setTrading (character : Character) (alive : SessionId → Bool) (session : Option SessionId) :
    Step Character :=
  return { character with transaction := ← character.transaction.setTrading alive session }

def setBuySell (character : Character) (alive : SessionId → Bool) (session : Option SessionId) :
    Step Character :=
  return { character with transaction := ← character.transaction.setBuySell alive session }

def cancelTransaction (character : Character) (alive : SessionId → Bool) : Step Character :=
  return { character with transaction := ← character.transaction.cancel alive }

/-! ### Death and respawn -/

/-- Dies, upon which the death script is called. -/
def die (character : Character) : Step (Character × Except LifecycleError Unit) := do
  match (← character.requireBeing).die with
  | .error refusal => return (character, .error refusal)
  | .ok being =>
    let (entity, scripted) ← character.context.callbacks.onDeath character.scripted
      (character.entity.setBeing being)
    return ({ character with entity, scripted }, .ok ())

/-- Lowers vitality, not below zero; at zero the character dies. The dead, and those without
vitality, take no damage. -/
def applyDamage (character : Character) (amount : Float) : Step Character := do
  let being ← character.requireBeing
  if being.isDead then return character
  match being.base? .hp with
  | none => return character
  | some hp =>
    let left := Amount.positivePart (hp - Amount.positivePart amount)
    let character := character.withBeing (being.setAttribute .hp left).1
    if left ≤ 0.0 then return (← character.die).1 else return character

/-- The vitality of a being restored to what it can be at most, if it has both. -/
def restoreHp (being : Being) : Being :=
  match being.modified? .maxHp with
  | some full => (being.setAttribute .hp full).1
  | none => being

/-- Revives the dead. Unless a script sees to the rest, vitality is restored and a warp to the respawn
point requested. -/
def respawn (character : Character) : Step (Character × Except LifecycleError Unit) := do
  let being ← character.requireBeing
  match being.revive with
  | .error refusal =>
    Step.log .warn "tried to respawn without being dead" [("character", being.name)]
    return (character, .error refusal)
  | .ok being =>
    let (entity, handled, scripted) ← character.context.callbacks.onDeathAccepted
      character.scripted (character.entity.setBeing being)
    let character := { character with entity, scripted }
    if handled then return (character, .ok ())
    let character := character.withBeing (restoreHp (← character.requireBeing))
    let point := character.context.config.respawn
    Step.emit [.requested (.warp character.id point.map point.position)]
    return (character, .ok ())

/-! ### Connection -/

def triggerLoginCallback (character : Character) : Step Character := do
  let (entity, scripted) ← character.context.callbacks.onLogin character.scripted character.entity
  return { character with entity, scripted }

/-- The client is gone. The dead are revived, so that none is kept dead; the living leave. -/
def disconnected (character : Character) (alive : SessionId → Bool) :
    Step (Character × Disconnect) := do
  let character ← { character with connected := false, client := none, dialogue := none }
    |>.cancelTransaction alive
  if ← character.isDead then
    return ((← character.respawn).1, .respawned)
  else
    Step.emit [.requested (.removal character.id)]
    return (character, .removed)

/-! ### Talking to NPCs -/

/-- Goes on with the dialogue. When it is finished the client closes the window. -/
def resumeDialogue (character : Character) : Step Character := do
  match character.dialogue with
  | none => Step.fail .noDialogue
  | some dialogue =>
    Step.emit [.resumed dialogue.npc character.id]
    match dialogue.thread.resume character.entity with
    | (entity, .suspended, thread) =>
      return { character with entity, dialogue := some { dialogue with thread } }
    | (entity, .finished, _) =>
      let character := { character with entity, dialogue := none }
      character.send (Message.writeInt16 { id := .npcClose } dialogue.npc.toInt16)
      return character

/-- Begins a dialogue in place of any that is running. -/
def startDialogue (character : Character) (thread : ScriptThread) (npc : NpcId) : Step Character :=
  { character with dialogue := some { npc, thread } }.resumeDialogue

/-! ### Scripts -/

/-- Lets a script at the entity. -/
def withEntity (character : Character) (script : Entity → Entity) : Character :=
  { character with entity := script character.entity }

end Character

end CharacterSim
