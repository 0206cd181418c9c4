/-! Values of RON documents as they are written. What a number or a constant stands for depends on what
is looked for in its place. -/

namespace CharacterSim

/-- A value as it is written. -/
inductive RonValue where
  /-- A number in any spelling. -/
  | number (token : List Char)
  | byte (value : UInt8)
  | character (value : Char)
  | text (value : String)
  | bytes (value : List UInt8)
  /-- A truth value, or an amount that no digits write. -/
  | constant (name : String)
  /-- A value that may be absent. -/
  | optional (value : Option RonValue)
  | list (items : List RonValue)
  /-- Items in parentheses, with or without a name before them; a name alone has none. -/
  | tuple (name : Option String) (items : List RonValue)
  /-- Named fields in parentheses, with or without a name before them. -/
  | record (name : Option String) (fields : List (String × RonValue))
  | map (entries : List (RonValue × RonValue))
  deriving Inhabited

/-- What a document allows and demands beyond the common rules. -/
structure RonExtensions where
  /-- An optional value that is there may be written without `Some`. -/
  implicitSome : Bool := false
  /-- Every record is written with its name. -/
  explicitNames : Bool := false
  /-- What `Some` holds may be written without the parentheses it has of its own. -/
  unwrapVariants : Bool := false
  deriving DecidableEq

structure RonDocument where
  extensions : RonExtensions
  value : RonValue

end CharacterSim
