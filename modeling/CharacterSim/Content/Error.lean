import CharacterSim.Attribute.Registry

/-! Why content could not be loaded. -/

namespace CharacterSim

/-- The cause, where it is a refused catalog, and what was being done, the outermost first. -/
structure ContentError where
  context : List String
  cause : Option RegistryError := none
  deriving DecidableEq

namespace ContentError

/-- A cause of its own. -/
def ofText (text : String) : ContentError := { context := [text] }

def ofRegistry (error : RegistryError) : ContentError := { context := [], cause := some error }

/-- Says what was being done around the failure. -/
def within (text : String) (error : ContentError) : ContentError :=
  { error with context := text :: error.context }

/-- Every text, the outermost first. -/
def chain (error : ContentError) : List String :=
  error.context ++ (error.cause.map DomainError.message).toList

end ContentError

end CharacterSim
