import CharacterSim.Script.Basic

/-! Scripts written down as lists of actions on an entity. An action on a component the entity lacks
is skipped, and a refused action changes nothing. -/

namespace CharacterSim

/-- One action of a script. -/
inductive ScriptAction where
  | setAttribute (id : AttributeId) (value : Float)
  | addModifier (id : AttributeId) (source : ModifierSource) (modifier : Modifier)
  | removeModifier (id : AttributeId) (source : ModifierSource)
  | rename (name : String)
  | die
  | revive
  | clearChanged
  | give (id : AbilityId)
  | take (id : AbilityId)
  | activate (id : AbilityId)
  | move (map : MapId) (position : Position)
  | remove (kind : ComponentKind)

namespace ScriptAction

/-- The being after a transition of its lifecycle, unchanged if that is not allowed. -/
def transition (being : Being) : Except LifecycleError Being → Being
  | .ok changed => changed
  | .error _ => being

def run (entity : Entity) : ScriptAction → Entity
  | setAttribute id value => entity.updateBeing fun being => (being.setAttribute id value).1
  | addModifier id source modifier =>
    entity.updateBeing fun being => being.addModifier id source modifier
  | removeModifier id source => entity.updateBeing fun being => being.removeModifier id source
  | rename name => entity.updateBeing fun being => { being with name }
  | die => entity.updateBeing fun being => transition being being.die
  | revive => entity.updateBeing fun being => transition being being.revive
  | clearChanged => entity.updateBeing Being.clearChanged
  | give id => entity.updateAbilities fun abilities => (abilities.give? id).getD abilities
  | take id => entity.updateAbilities fun abilities => (abilities.take? id).getD abilities
  | activate id => entity.updateAbilities fun abilities =>
    match abilities.activate id with
    | .ok changed => changed
    | .error _ => abilities
  | move map position => entity.updateActor fun actor => actor.moveTo map position
  | remove kind => entity.remove kind

/-- Runs the actions of a list in order. -/
def runAll (actions : List ScriptAction) (entity : Entity) : Entity := actions.foldl run entity

end ScriptAction

/-- Callbacks that run lists of actions; `handled` is what the callback after a revival answers. -/
def ScriptCallbacks.ofActions (death deathAccepted login : Option (List ScriptAction))
    (handled : Bool) : ScriptCallbacks where
  death := death.map fun actions _ => ScriptAction.runAll actions
  deathAccepted := deathAccepted.map fun actions _ entity =>
    (ScriptAction.runAll actions entity, handled)
  login := login.map fun actions _ => ScriptAction.runAll actions

/-- One resumption of a scripted thread: its actions, and whether the thread is then done. -/
structure ThreadItem where
  finished : Bool
  actions : List ScriptAction

/-- The thread that takes one item each time it is resumed, and is done when none is left. -/
def ScriptThread.ofItems (items : List ThreadItem) : ScriptThread where
  behaviour seen entity :=
    match items[seen.length]? with
    | some item =>
      (ScriptAction.runAll item.actions entity, if item.finished then .finished else .suspended)
    | none => (entity, .finished)

end CharacterSim
