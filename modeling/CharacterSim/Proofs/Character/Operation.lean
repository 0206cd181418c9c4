import CharacterSim.Character.Basic
import CharacterSim.Proofs.Entity.Edit
import CharacterSim.Proofs.Step

/-! Everything that can be asked of a character, and what is answered. -/

namespace CharacterSim.Character

/-- The operations of a character. What they answer is left out. -/
inductive Operation where
  | tick (elapsed : Duration)
  | update
  | sendStatus
  | pendingSync
  | modifiedAllAttributes
  | setBase (id : AttributeId) (value : Float)
  | addModifier (id : AttributeId) (source : ModifierSource) (modifier : Modifier)
  | removeModifier (id : AttributeId) (source : ModifierSource)
  | setAttributePoints (points : UInt32)
  | setCorrectionPoints (points : UInt32)
  | usePoint (id : AttributeId)
  | useCorrection (id : AttributeId)
  | activateAbility (id : AbilityId)
  | giveAbility (id : AbilityId)
  | takeAbility (id : AbilityId)
  | incrementKillCount (monster : MonsterTypeId)
  | setTrading (alive : SessionId → Bool) (session : Option SessionId)
  | setBuySell (alive : SessionId → Bool) (session : Option SessionId)
  | cancelTransaction (alive : SessionId → Bool)
  | die
  | applyDamage (amount : Float)
  | respawn
  | triggerLoginCallback
  | disconnected (alive : SessionId → Bool)
  | startDialogue (thread : ScriptThread) (npc : NpcId)
  | resumeDialogue
  /-- A script is let at the entity. -/
  | script (change : Entity → Entity)

def perform (character : Character) : Operation → Step Character
  | .tick elapsed => character.tick elapsed
  | .update => character.update
  | .sendStatus => character.sendStatus
  | .pendingSync => return (← character.pendingSync).1
  | .modifiedAllAttributes => character.modifiedAllAttributes
  | .setBase id value => return (← character.setBase id value).1
  | .addModifier id source modifier => character.addModifier id source modifier
  | .removeModifier id source => character.removeModifier id source
  | .setAttributePoints points => return character.setAttributePoints points
  | .setCorrectionPoints points => return character.setCorrectionPoints points
  | .usePoint id => return (← character.usePoint id).1
  | .useCorrection id => return (← character.useCorrection id).1
  | .activateAbility id => return (← character.activateAbility id).1
  | .giveAbility id => return (← character.giveAbility id).1
  | .takeAbility id => return (← character.takeAbility id).1
  | .incrementKillCount monster => return character.incrementKillCount monster
  | .setTrading alive session => character.setTrading alive session
  | .setBuySell alive session => character.setBuySell alive session
  | .cancelTransaction alive => character.cancelTransaction alive
  | .die => return (← character.die).1
  | .applyDamage amount => character.applyDamage amount
  | .respawn => return (← character.respawn).1
  | .triggerLoginCallback => character.triggerLoginCallback
  | .disconnected alive => return (← character.disconnected alive).1
  | .startDialogue thread npc => character.startDialogue thread npc
  | .resumeDialogue => character.resumeDialogue
  | .script change => return character.withEntity change

/-- What an operation answers. -/
inductive Answer where
  /-- It has no answer. -/
  | done
  | applied (carried : Bool)
  | spent (response : SpendResponse)
  | activated (result : Except AbilityDenied Unit)
  | given (granted : Bool)
  | taken (withdrawn : Bool)
  | lifecycle (result : Except LifecycleError Unit)
  | pending (channels : SyncChannels)
  | disconnected (outcome : Disconnect)

/-- An operation and its answer. -/
def respond (character : Character) : Operation → Step (Character × Answer)
  | .tick elapsed => return (← character.tick elapsed, .done)
  | .update => return (← character.update, .done)
  | .sendStatus => return (← character.sendStatus, .done)
  | .pendingSync => do
    let (character, channels) ← character.pendingSync
    return (character, .pending channels)
  | .modifiedAllAttributes => return (← character.modifiedAllAttributes, .done)
  | .setBase id value => do
    let (character, carried) ← character.setBase id value
    return (character, .applied carried)
  | .addModifier id source modifier =>
    return (← character.addModifier id source modifier, .done)
  | .removeModifier id source => return (← character.removeModifier id source, .done)
  | .setAttributePoints points => return (character.setAttributePoints points, .done)
  | .setCorrectionPoints points => return (character.setCorrectionPoints points, .done)
  | .usePoint id => do
    let (character, response) ← character.usePoint id
    return (character, .spent response)
  | .useCorrection id => do
    let (character, response) ← character.useCorrection id
    return (character, .spent response)
  | .activateAbility id => do
    let (character, result) ← character.activateAbility id
    return (character, .activated result)
  | .giveAbility id => do
    let (character, granted) ← character.giveAbility id
    return (character, .given granted)
  | .takeAbility id => do
    let (character, withdrawn) ← character.takeAbility id
    return (character, .taken withdrawn)
  | .incrementKillCount monster => return (character.incrementKillCount monster, .done)
  | .setTrading alive session => return (← character.setTrading alive session, .done)
  | .setBuySell alive session => return (← character.setBuySell alive session, .done)
  | .cancelTransaction alive => return (← character.cancelTransaction alive, .done)
  | .die => do
    let (character, result) ← character.die
    return (character, .lifecycle result)
  | .applyDamage amount => return (← character.applyDamage amount, .done)
  | .respawn => do
    let (character, result) ← character.respawn
    return (character, .lifecycle result)
  | .triggerLoginCallback => return (← character.triggerLoginCallback, .done)
  | .disconnected alive => do
    let (character, outcome) ← character.disconnected alive
    return (character, .disconnected outcome)
  | .startDialogue thread npc => return (← character.startDialogue thread npc, .done)
  | .resumeDialogue => return (← character.resumeDialogue, .done)
  | .script change => return (character.withEntity change, .done)

theorem perform_eq (character : Character) (operation : Operation) :
    character.perform operation = do return (← character.respond operation).1 := by
  cases operation <;> simp [perform, respond]

theorem effects_perform (character : Character) (operation : Operation) :
    (character.perform operation).effects = (character.respond operation).effects := by
  rw [perform_eq]
  cases hresult : (character.respond operation).result with
  | ok value => rw [Step.bind_of_ok hresult, Step.effects_pure, List.append_nil]
  | error fault => rw [Step.bind_of_error hresult]

/-- One operation after the other. -/
def performAll (character : Character) (operations : List Operation) : Step Character :=
  operations.foldlM perform character

theorem performAll_concat (character : Character) (operations : List Operation)
    (operation : Operation) : character.performAll (operations ++ [operation]) =
      character.performAll operations >>= fun before => before.perform operation := by
  simp [performAll]

namespace Operation

/-- The character keeps its connection, and scripts that come with the operation only edit the
entity. -/
def Gentle : Operation → Prop
  | script change => ∀ entity : Entity, entity.Edits (change entity)
  | startDialogue thread _ => thread.Gentle
  | disconnected _ => False
  | _ => True

/-- The mistakes that the caller of an operation can make. -/
inductive MayFail : Operation → Fault → Prop where
  | clearedTrade (alive : SessionId → Bool) (active : TransactionKind) :
    MayFail (.setTrading alive none) (.clearedTrade active)
  | clearedBuySell (alive : SessionId → Bool) (active : TransactionKind) :
    MayFail (.setBuySell alive none) (.clearedBuySell active)
  | noDialogue : MayFail .resumeDialogue .noDialogue

/-- The operation takes no note of changes and leaves the client. -/
def Plain : Operation → Prop
  | update | sendStatus | pendingSync | modifiedAllAttributes | disconnected _ => False
  | _ => True

/-- The operation takes note of what changed. -/
inductive Drains : Operation → Prop where
  | update : Drains .update
  | sendStatus : Drains .sendStatus
  | pendingSync : Drains .pendingSync

end Operation

end CharacterSim.Character
