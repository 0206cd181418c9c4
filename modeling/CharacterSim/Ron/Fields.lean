import CharacterSim.Ron.Number
import CharacterSim.Ron.Value

/-! What is looked for in values: text, numbers, lists, and records with fields of their own. A field
that is not looked for is no matter; one that is may be given once. -/

namespace CharacterSim

namespace RonValue

def text? : RonValue → Option String
  | text value => some value
  | _ => none

def bool? : RonValue → Option Bool
  | constant "true" => some true
  | constant "false" => some false
  | _ => none

/-- An integer of so many bits that is not negative. A byte literal has eight bits. -/
def unsigned? (bits : Nat) : RonValue → Option Nat
  | number token => RonNumber.integer? (RonNumber.unsigned bits) token
  | byte value => if bits = 8 then some value.toNat else none
  | _ => none

def amount? : RonValue → Option Float
  | number token => RonNumber.amount? token
  | constant spelling => RonNumber.amount? spelling.toList
  | _ => none

/-- A value that may be absent. -/
def option? {α : Type} (extensions : RonExtensions) (read : RonValue → Option α) :
    RonValue → Option (Option α)
  | optional none => some none
  | optional (some value) => some <$> read value
  | value => if extensions.implicitSome then some <$> read value else none

def list? {α : Type} (read : RonValue → Option α) : RonValue → Option (List α)
  | list items => items.mapM read
  | _ => none

/-- Two values in parentheses. -/
def pair? {α β : Type} (first : RonValue → Option α) (second : RonValue → Option β) :
    RonValue → Option (α × β)
  | tuple none [left, right] => return (← first left, ← second right)
  | _ => none

/-- The fields of a record that may be written with the given name. -/
def fields? (extensions : RonExtensions) (typeName : String) :
    RonValue → Option (List (String × RonValue))
  | record none fields => if extensions.explicitNames then none else some fields
  | record (some given) fields => if given == typeName then some fields else none
  | _ => none

end RonValue

namespace RonFields

variable {α : Type}

/-- What a field is read as, nothing where it is not given. -/
def find? (fields : List (String × RonValue)) (name : String) (read : RonValue → Option α) :
    Option (Option α) :=
  match fields.filter fun field => field.1 == name with
  | [] => some none
  | [(_, value)] => some <$> read value
  | _ => none

/-- A field that has to be given. -/
def required? (fields : List (String × RonValue)) (name : String) (read : RonValue → Option α) :
    Option α := do
  ← find? fields name read

/-- A field that stands for something else where it is not given. -/
def optional? (fields : List (String × RonValue)) (name : String) (fallback : α)
    (read : RonValue → Option α) : Option α := do
  return (← find? fields name read).getD fallback

end RonFields

end CharacterSim
