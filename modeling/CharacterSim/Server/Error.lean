import CharacterSim.Character.Login
import CharacterSim.Content.Error

/-! Why a server refuses a request or fails. -/

namespace CharacterSim

inductive ServerError where
  | unknownCharacter (entity : EntityId)
  | construction (error : ConstructionError)
  | lifecycle (error : LifecycleError)
  | missingAttributes
  | content (error : ContentError)
  | commandChannelClosed
  | replyChannelClosed
  | workerJoin
  deriving DecidableEq

instance : DomainError ServerError where
  severity
    | .unknownCharacter _ => .validation
    | .construction error => DomainError.severity error
    | .lifecycle error => DomainError.severity error
    | .missingAttributes | .content _ => .fatal
    | .commandChannelClosed | .replyChannelClosed | .workerJoin => .internal
  code
    | .unknownCharacter _ => "RUNTIME_UNKNOWN_CHARACTER"
    | .construction error => DomainError.code error
    | .lifecycle error => DomainError.code error
    | .missingAttributes => "RUNTIME_MISSING_ATTRIBUTES"
    | .content _ => "RUNTIME_CONTENT"
    | .commandChannelClosed => "RUNTIME_COMMAND_CHANNEL_CLOSED"
    | .replyChannelClosed => "RUNTIME_REPLY_CHANNEL_CLOSED"
    | .workerJoin => "RUNTIME_WORKER_JOIN"
  message
    | .unknownCharacter entity => s!"character {entity.text} is not in the simulation"
    | .construction _ => "character construction failed"
    | .lifecycle error => DomainError.message error
    | .missingAttributes => "runtime requires an attribute registry before building"
    | .content error => error.chain.headD ""
    | .commandChannelClosed => "simulation worker command channel closed"
    | .replyChannelClosed => "simulation worker reply channel closed"
    | .workerJoin => "simulation worker join failed"

/-- The error an error came from, where it hides it. -/
def ServerError.source? : ServerError → Option String
  | construction error => some (DomainError.message error)
  | _ => none

end CharacterSim
