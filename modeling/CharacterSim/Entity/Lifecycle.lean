import CharacterSim.Error

/-! A being is alive or dead. It dies only while alive and is revived only while dead. -/

namespace CharacterSim

inductive LifecycleState where
  | alive
  | dead
  deriving DecidableEq, Inhabited

/-- A transition that the present state does not allow. -/
inductive LifecycleError where
  | alreadyDead
  | notDead
  deriving DecidableEq

instance : DomainError LifecycleError where
  severity _ := .recoverable
  code
    | .alreadyDead => "LIFECYCLE_ALREADY_DEAD"
    | .notDead => "LIFECYCLE_NOT_DEAD"
  message
    | .alreadyDead => "already dead"
    | .notDead => "not dead"

namespace LifecycleState

def text : LifecycleState → String
  | alive => "ALIVE"
  | dead => "DEAD"

def isDead : LifecycleState → Bool
  | alive => false
  | dead => true

def die : LifecycleState → Except LifecycleError LifecycleState
  | alive => .ok dead
  | dead => .error .alreadyDead

def revive : LifecycleState → Except LifecycleError LifecycleState
  | alive => .error .notDead
  | dead => .ok alive

end LifecycleState

end CharacterSim
