/-! Digits and the whole numbers they write. -/

namespace CharacterSim.Text

def isDigit (char : Char) : Bool := '0' ≤ char && char ≤ '9'

/-- The value of a digit in bases up to sixteen, in either case. -/
def digitValue? (char : Char) : Option Nat :=
  if isDigit char then some (char.toNat - '0'.toNat)
  else if 'a' ≤ char && char ≤ 'f' then some (char.toNat - 'a'.toNat + 10)
  else if 'A' ≤ char && char ≤ 'F' then some (char.toNat - 'A'.toNat + 10)
  else none

def isHexDigit (char : Char) : Bool := (digitValue? char).isSome

/-- A number with another digit behind it. -/
def appendDigit? (base number : Nat) (char : Char) : Option Nat :=
  match digitValue? char with
  | some value => if value < base then some (number * base + value) else none
  | none => none

/-- The number that one or more digits of a base write. -/
def ofDigits? (base : Nat) : List Char → Option Nat
  | [] => none
  | first :: rest => (first :: rest).foldlM (appendDigit? base) 0

/-- The character with a number, if there is one. -/
def charOfNat? (number : Nat) : Option Char :=
  if h : number.isValidChar then some (Char.ofNatAux number h) else none

end CharacterSim.Text
