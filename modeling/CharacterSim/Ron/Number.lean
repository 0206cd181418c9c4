import CharacterSim.Numeric.Decimal

/-! Spellings of numbers: whole numbers in four bases, with underscores between digits and the name of
an integer type behind them, and decimal numbers. -/

namespace CharacterSim.RonNumber

open Decimal (splitSign)

/-- A type of integers: its name, least and greatest value. -/
structure IntegerType where
  name : String
  least : Int
  greatest : Int

def unsigned (bits : Nat) : IntegerType := ⟨s!"u{bits}", 0, Int.pow 2 bits - 1⟩

def signed (bits : Nat) : IntegerType :=
  ⟨s!"i{bits}", -Int.pow 2 (bits - 1), Int.pow 2 (bits - 1) - 1⟩

/-- The types whose names a number may have behind it. -/
def integerTypes : List IntegerType :=
  [signed 8, signed 16, signed 32, signed 64, unsigned 8, unsigned 16, unsigned 32, unsigned 64]

def IntegerType.holds (type : IntegerType) (value : Int) : Bool :=
  type.least ≤ value && value ≤ type.greatest

/-- The base that the beginning of a number tells, and the digits after that. -/
def base : List Char → Nat × List Char
  | '0' :: 'b' :: rest => (2, rest)
  | '0' :: 'o' :: rest => (8, rest)
  | '0' :: 'x' :: rest => (16, rest)
  | rest => (10, rest)

/-- The number that digits write, of which underscores after the first are no part. -/
def magnitude? (text : List Char) : Option Nat :=
  let (base, digits) := base text
  if digits.head? == some '_' then none else Text.ofDigits? base (digits.filter (· != '_'))

def isIntegerChar (char : Char) : Bool := Text.isHexDigit char || char == '_'

/-- The digits of a number without sign, and the type whose name is behind them. A name is understood
only behind characters each of which could be a digit. -/
def splitType (text : List Char) : List Char × Option IntegerType :=
  match integerTypes.find? fun type => text.dropWhile isIntegerChar == type.name.toList with
  | some type => (text.takeWhile isIntegerChar, some type)
  | none => (text, none)

/-- The whole number that a token writes, and the type it names. -/
def whole? (token : List Char) : Option (Int × Option IntegerType) := do
  let (negative, rest) := splitSign token
  let (digits, type) := splitType rest
  let size ← magnitude? digits
  return (if negative then -size else size, type)

/-- The value of a token where an integer of a type is looked for. -/
def integer? (type : IntegerType) (token : List Char) : Option Nat := do
  let (value, named) ← whole? token
  guard (type.holds value && named.all (·.name == type.name))
  return value.toNat

/-- Takes away the underscores, which may follow only digits, exponent marks and signs of exponents. -/
def withoutUnderscores? (allowed : Bool) : List Char → Option (List Char)
  | [] => some []
  | '_' :: rest => if allowed then withoutUnderscores? true rest else none
  | char :: rest =>
    let allowed := (allowed || Text.isDigit char || char == 'e' || char == 'E') && char != '.'
    (withoutUnderscores? allowed rest).map (char :: ·)

def isDecimalChar (char : Char) : Bool := Text.isDigit char || "eE.+-_".toList.contains char

/-- The spellings of amounts that no digits write. -/
def unwritable : List (String × Float) :=
  [("inf", 1.0 / 0.0), ("+inf", 1.0 / 0.0), ("-inf", -1.0 / 0.0),
    ("NaN", 0.0 / 0.0), ("+NaN", 0.0 / 0.0), ("-NaN", 0.0 / 0.0)]

/-- The amount of a token that has the given text behind it. -/
def amountBefore? (ending : String) (token : List Char) : Option Float :=
  match unwritable.find? fun (spelling, _) => token == (spelling ++ ending).toList with
  | some (_, amount) => some amount
  | none =>
    if token.dropWhile isDecimalChar == ending.toList then do
      let text ← withoutUnderscores? false (token.takeWhile isDecimalChar)
      return (← Decimal.ofChars? text).toFloat
    else none

/-- The value of a token where an amount is looked for. -/
def amount? (token : List Char) : Option Float :=
  amountBefore? "" token <|> amountBefore? "f64" token

/-- Whether a token is a number where nothing in particular is looked for: an integer of the type it
names, or of 64 bits where it names none, or a decimal number. -/
def isNumber (token : List Char) : Bool :=
  match whole? token with
  | some (value, some type) => type.holds value || (amountBefore? "" token).isSome
  | some (value, none) =>
    (if token.head? == some '-' then signed 64 else unsigned 64).holds value
      || (amountBefore? "" token).isSome
  | none => (amount? token <|> amountBefore? "f32" token).isSome

end CharacterSim.RonNumber
