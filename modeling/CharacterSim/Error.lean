/-! What the errors of every part of the library have in common: a severity, a stable code and a
text. -/

namespace CharacterSim

/-- How an error is to be dealt with. -/
inductive Severity where
  | recoverable
  | validation
  | internal
  | fatal
  deriving DecidableEq, Inhabited

namespace Severity

/-- The name of a severity in reports. -/
def text : Severity → String
  | recoverable => "recoverable"
  | validation => "validation"
  | internal => "internal"
  | fatal => "fatal"

def all : List Severity := [recoverable, validation, internal, fatal]

/-- A retry may succeed. -/
def isRecoverable : Severity → Bool
  | recoverable => true
  | _ => false

/-- The cause lies in the server or its static data, not in a request. -/
def isInternal : Severity → Bool
  | internal | fatal => true
  | _ => false

end Severity

/-- A type whose values are causes of failure. -/
class DomainError (ε : Type) where
  severity : ε → Severity
  code : ε → String
  message : ε → String

end CharacterSim
