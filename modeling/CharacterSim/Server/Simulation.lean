import CharacterSim.Server.Error

/-! The characters that a server hosts. In every tick each character's timers advance, its changes are
sent, and then what was requested of the world is carried out: warps first, removals after them. -/

namespace CharacterSim

/-- A change of place that awaits the end of the tick. -/
structure Warp where
  entity : EntityId
  map : MapId
  position : Position
  deriving DecidableEq

/-- What was requested of the world and is not carried out yet. -/
structure WorldQueue where
  warps : List Warp := []
  removals : List EntityId := []
  deriving DecidableEq, Inhabited

namespace WorldQueue

def enqueue (queue : WorldQueue) : WorldRequest → WorldQueue
  | .warp entity map position => { queue with warps := queue.warps ++ [⟨entity, map, position⟩] }
  | .removal entity => { queue with removals := queue.removals ++ [entity] }

def enqueueAll (queue : WorldQueue) (requests : List WorldRequest) : WorldQueue :=
  requests.foldl enqueue queue

end WorldQueue

structure Simulation where
  context : CharacterContext
  /-- How login messages are read. -/
  format : Load Unit := Load.standard
  characters : SortedMap EntityId Character := .empty
  world : WorldQueue := {}
  /-- The id of the next character. -/
  nextId : UInt32 := 1

namespace Simulation

def character? (simulation : Simulation) (entity : EntityId) : Option Character :=
  simulation.characters.get? entity

def setCharacter (simulation : Simulation) (entity : EntityId) (character : Character) :
    Simulation :=
  { simulation with characters := simulation.characters.insert entity character }

def size (simulation : Simulation) : Nat := simulation.characters.size

def isEmpty (simulation : Simulation) : Bool := simulation.characters.isEmpty

/-- Lets a character operate on a world whose requests await the end of the tick. -/
def operate {α : Type} (simulation : Simulation) (entity : EntityId)
    (operation : Step (Character × α)) : Step (Simulation × α) := do
  let ((character, answer), requests) ← operation.withRequests
  return ({ simulation.setCharacter entity character with
    world := simulation.world.enqueueAll requests }, answer)

/-- Admits the character that a login message describes. -/
def login (simulation : Simulation) (payload : List UInt8) (client : Option ClientId) :
    Step (Simulation × Except ServerError EntityId) := do
  let entity : EntityId := ⟨simulation.nextId⟩
  let (outcome, _) ← Character.ofMessage entity simulation.context simulation.format client
    (.ofBytes payload)
  match outcome with
  | .error error => return (simulation, .error (.construction error))
  | .ok character =>
    let character ← character.triggerLoginCallback
    Step.log .info "character entered the simulation"
      [("entity", entity.text), ("database_id", s!"{character.databaseId.toInt}"),
        ("name", ← character.name)]
    return ({ simulation.setCharacter entity character with
      nextId := simulation.nextId + 1 }, .ok entity)

/-- The client of a character is gone; at the end of the tick the character leaves. -/
def disconnect (simulation : Simulation) (alive : SessionId → Bool) (entity : EntityId) :
    Step (Simulation × Except ServerError Disconnect) := do
  match simulation.character? entity with
  | none => return (simulation, .error (.unknownCharacter entity))
  | some character =>
    let (simulation, outcome) ← simulation.operate entity (character.disconnected alive)
    let world :=
      match outcome with
      | .respawned => simulation.world.enqueue (.removal entity)
      | .removed => simulation.world
    Step.log .debug "character disconnected"
      [("entity", entity.text), ("outcome", outcome.text)]
    return ({ simulation with world }, .ok outcome)

/-- Revives a dead character at the request of its client. -/
def respawn (simulation : Simulation) (entity : EntityId) :
    Step (Simulation × Except ServerError Unit) := do
  match simulation.character? entity with
  | none => return (simulation, .error (.unknownCharacter entity))
  | some character =>
    let (simulation, outcome) ← simulation.operate entity character.respawn
    return (simulation, outcome.mapError .lifecycle)

/-- Inflicts damage on a character. -/
def damage (simulation : Simulation) (entity : EntityId) (amount : Float) :
    Step (Simulation × Except ServerError Unit) := do
  match simulation.character? entity with
  | none => return (simulation, .error (.unknownCharacter entity))
  | some character =>
    return (simulation.setCharacter entity (← character.applyDamage amount), .ok ())

def status (simulation : Simulation) (entity : EntityId) : Step (Option CharacterStatus) := do
  match simulation.character? entity with
  | none => return none
  | some character =>
    let (map, position) ← character.place
    let name ← character.name
    let lifecycle ← character.lifecycleState
    return some
      { entity, name, lifecycle, map, position
        databaseId := character.databaseId
        attributePoints := character.ledger.attributePoints
        correctionPoints := character.ledger.correctionPoints }

/-- Every character operates in turn, in ascending order of id. -/
def forEach (operation : Character → Step Character) (characters : SortedMap EntityId Character) :
    Step (SortedMap EntityId Character) :=
  characters.entries.foldlM (fun characters entry => do
    return characters.insert entry.1 (← operation entry.2)) characters

/-- Moves a character, unless it is gone. -/
def applyWarp (characters : SortedMap EntityId Character) (warp : Warp) :
    Step (SortedMap EntityId Character) := do
  let placed := do
    let character ← characters.get? warp.entity
    let actor ← character.entity.actor?
    return (character, actor)
  match placed with
  | none =>
    Step.log .warn "dropping warp for an entity that left" [("entity", warp.entity.text)]
    return characters
  | some (character, actor) =>
    Step.log .debug "warped"
      [("entity", warp.entity.text), ("map", s!"{warp.map.toNat}"),
        ("x", s!"{warp.position.x.toInt}"), ("y", s!"{warp.position.y.toInt}")]
    return characters.insert warp.entity
      { character with entity := character.entity.setActor (actor.moveTo warp.map warp.position) }

/-- Takes a character out of the simulation; one that left before is no matter. -/
def applyRemoval (state : SortedMap EntityId Character × List ServerEvent) (entity : EntityId) :
    Step (SortedMap EntityId Character × List ServerEvent) := do
  match state.1.get? entity with
  | none => return state
  | some character =>
    let (map, position) ← character.place
    Step.log .info "character left the simulation"
      [("entity", entity.text), ("database_id", s!"{character.databaseId.toInt}")]
    return (state.1.erase entity,
      state.2 ++ [.removed entity character.databaseId map position])

/-- Carries out what was requested of the world, and tells who left. -/
def applyWorld (simulation : Simulation) : Step (Simulation × List ServerEvent) := do
  let characters ← simulation.world.warps.foldlM applyWarp simulation.characters
  let (characters, events) ← simulation.world.removals.foldlM applyRemoval (characters, [])
  return ({ simulation with characters, world := {} }, events)

/-- One step of the simulation: timers, then status, then attributes of all characters, then what was
requested of the world. -/
def tick (simulation : Simulation) (elapsed : Duration) :
    Step (Simulation × List ServerEvent) := do
  let characters ← forEach (·.tick elapsed) simulation.characters
  let characters ← forEach (·.update) characters
  let characters ← forEach (·.sendStatus) characters
  applyWorld { simulation with characters }

end Simulation

end CharacterSim
