import CharacterSim.Character.Basic

/-! Descriptions of entities, characters and what characters share, for logs and diagnosis. -/

namespace CharacterSim

/-- A name and named parts in braces. -/
def describeParts (name : String) (parts : List String) : String :=
  name ++ " \x7b " ++ ", ".intercalate parts ++ " \x7d"

def Entity.describe (entity : Entity) : String :=
  describeParts "Entity"
    [s!"id: EntityId({entity.id.val.toNat})",
      "components: [" ++ ", ".intercalate (entity.kinds.map (·.label)) ++ "]"]

def Transaction.describe (transaction : Transaction) : String :=
  describeParts "TransactionCoordinator" [s!"active: {transaction.kind.label}"]

def ProgressionLedger.describe (ledger : ProgressionLedger) : String :=
  describeParts "ProgressionLedger"
    [s!"attribute_points: {ledger.attributePoints.toNat}",
      s!"correction_points: {ledger.correctionPoints.toNat}",
      s!"changed: {ledger.changed}"]

def Dialogue.describe (dialogue : Dialogue) : String :=
  describeParts "NpcDialogue" [s!"npc: {dialogue.npc.toNat}", ".."]

def Character.describe (character : Character) : String :=
  describeParts "Character"
    [s!"database_id: {character.databaseId.toInt}",
      s!"entity: {character.entity.describe}",
      s!"connected: {character.connected}",
      s!"transaction: {character.transaction.kind.label}",
      s!"ledger: {character.ledger.describe}",
      "dialogue: " ++
        (match character.dialogue with
        | some dialogue => s!"Some({dialogue.describe})"
        | none => "None"),
      ".."]

def ScriptCallbacks.describe (callbacks : ScriptCallbacks) : String :=
  describeParts "ScriptCallbacks"
    [s!"on_death: {callbacks.death.isSome}",
      s!"on_death_accepted: {callbacks.deathAccepted.isSome}",
      s!"on_login: {callbacks.login.isSome}"]

def GameConfig.describe (config : GameConfig) : String :=
  describeParts "GameConfig"
    ["respawn: " ++ describeParts "RespawnPoint"
      [s!"map: {config.respawn.map.toNat}", s!"x: {config.respawn.x.toInt}",
        s!"y: {config.respawn.y.toInt}"]]

def CharacterContext.describe (context : CharacterContext) : String :=
  describeParts "CharacterContext"
    [s!"attributes: {context.registry.size}",
      s!"abilities: {context.abilities.size}",
      s!"callbacks: {context.callbacks.describe}",
      s!"config: {context.config.describe}",
      ".."]

end CharacterSim
