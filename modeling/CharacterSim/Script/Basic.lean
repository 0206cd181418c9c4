import CharacterSim.Effect

/-! Hooks into a scripting engine. A callback is given an entity and runs to its end before the
operation that called it goes on; a thread is resumed time and again until it finishes. -/

namespace CharacterSim

/-- What the callbacks were given for one character, the latest first. -/
abbrev ScriptHistory := List (Hook × Entity)

/-- The callbacks of a server, shared by its characters. What a callback does may depend on all that
the callbacks were given before for the character. Ids tell the calls of a run apart, so a run of
callbacks that keep a state of their own is a run of some that go by these histories; what is not
covered is only that calls for one character make a difference to another when two runs are compared.
-/
structure ScriptCallbacks where
  death : Option (ScriptHistory → Entity → Entity) := none
  /-- Also says whether it saw to the respawn. -/
  deathAccepted : Option (ScriptHistory → Entity → Entity × Bool) := none
  login : Option (ScriptHistory → Entity → Entity) := none

namespace ScriptCallbacks

/-- Calls a callback, if one is registered. -/
def notify (callback : Option (ScriptHistory → Entity → Entity)) (hook : Hook)
    (history : ScriptHistory) (entity : Entity) : Step (Entity × ScriptHistory) :=
  match callback with
  | some callback => do
    Step.emit [.called hook entity.id]
    return (callback history entity, (hook, entity) :: history)
  | none => return (entity, history)

def onDeath (callbacks : ScriptCallbacks) (history : ScriptHistory) (entity : Entity) :
    Step (Entity × ScriptHistory) :=
  notify callbacks.death .death history entity

/-- The first answer is whether a script is registered and saw to the respawn. -/
def onDeathAccepted (callbacks : ScriptCallbacks) (history : ScriptHistory) (entity : Entity) :
    Step (Entity × Bool × ScriptHistory) :=
  match callbacks.deathAccepted with
  | some callback => do
    Step.emit [.called .deathAccepted entity.id]
    let (after, handled) := callback history entity
    return (after, handled, (.deathAccepted, entity) :: history)
  | none => return (entity, false, history)

def onLogin (callbacks : ScriptCallbacks) (history : ScriptHistory) (entity : Entity) :
    Step (Entity × ScriptHistory) :=
  notify callbacks.login .login history entity

end ScriptCallbacks

/-- Where a thread stands after it was resumed. -/
inductive ThreadStatus where
  | suspended
  | finished
  deriving DecidableEq

/-- A suspended script. What it does when resumed may depend on every entity it was given before. -/
structure ScriptThread where
  behaviour : List Entity → Entity → Entity × ThreadStatus
  /-- The entities it was resumed with, the latest first. -/
  seen : List Entity := []

namespace ScriptThread

/-- Runs a thread until it waits again or is done. -/
def resume (thread : ScriptThread) (entity : Entity) : Entity × ThreadStatus × ScriptThread :=
  let outcome := thread.behaviour thread.seen entity
  (outcome.1, outcome.2, { thread with seen := entity :: thread.seen })

end ScriptThread

end CharacterSim
