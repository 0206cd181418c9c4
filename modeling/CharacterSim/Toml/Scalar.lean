import CharacterSim.Numeric.Decimal
import CharacterSim.Toml.Value

/-! Numbers, truth values, dates and times of TOML, each written without quotes. -/

namespace CharacterSim.Toml

open Decimal (splitSign)

/-- The digits of a number in which underscores stand only between two digits. -/
def plainDigits? (isDigit : Char → Bool) : List Char → Option (List Char)
  | [] => none
  | [last] => if isDigit last then some [last] else none
  | first :: '_' :: rest =>
    if isDigit first then (plainDigits? isDigit rest).map (first :: ·) else none
  | first :: rest => if isDigit first then (plainDigits? isDigit rest).map (first :: ·) else none

/-- The digits of a decimal number, which begins with a zero only if it is zero. -/
def wholeDigits? (text : List Char) : Option (List Char) := do
  let digits ← plainDigits? Text.isDigit text
  guard (digits.length = 1 || digits.head? != some '0')
  return digits

/-- Integers have at most 128 bits. -/
def isInteger (value : Int) : Bool := -Int.pow 2 127 ≤ value && value < Int.pow 2 128

/-- The number that digits of a base write. -/
def magnitude? (base : Nat) (isDigit : Char → Bool) (text : List Char) : Option Int :=
  (plainDigits? isDigit text >>= Text.ofDigits? base).map Int.ofNat

/-- The number that decimal digits write, which may have a sign. -/
def decimal? (token : List Char) : Option Int := do
  let (negative, rest) := splitSign token
  let size ← wholeDigits? rest >>= Text.ofDigits? 10
  return if negative then -size else size

/-- The integer that a token writes in one of four bases. -/
def integer? (token : List Char) : Option Int :=
  Option.filter isInteger <|
    match token with
    | '0' :: 'x' :: rest => magnitude? 16 Text.isHexDigit rest
    | '0' :: 'o' :: rest => magnitude? 8 Text.isDigit rest
    | '0' :: 'b' :: rest => magnitude? 2 Text.isDigit rest
    | _ => decimal? token

/-- The digits of an exponent, with its sign. -/
def exponentText? (text : List Char) : Option (List Char) := do
  let (negative, rest) := splitSign text
  let digits ← plainDigits? Text.isDigit rest
  return if negative then '-' :: digits else digits

/-- The amount of a token with digits before its point or exponent and after each. An amount too large
to be finite is none. -/
def written? (token : List Char) : Option Float := do
  let (negative, rest) := splitSign token
  let inWhole (char : Char) := char != '.' && char != 'e' && char != 'E'
  let whole ← wholeDigits? (rest.takeWhile inWhole)
  let afterWhole := rest.dropWhile inWhole
  guard !afterWhole.isEmpty
  let inFraction (char : Char) := char != 'e' && char != 'E'
  let (fraction, afterFraction) ← match afterWhole with
    | '.' :: rest => do
      let fraction ← plainDigits? Text.isDigit (rest.takeWhile inFraction)
      pure ('.' :: fraction, rest.dropWhile inFraction)
    | rest => pure ([], rest)
  let exponent ← match afterFraction with
    | [] => pure []
    | _ :: rest => ('e' :: ·) <$> exponentText? rest
  let decimal ← Decimal.ofChars? (whole ++ fraction ++ exponent)
  let amount := { decimal with negative }.toFloat
  guard !amount.isInf
  return amount

def float? (token : List Char) : Option Float :=
  let (negative, rest) := splitSign token
  if rest == "inf".toList then some (if negative then -1.0 / 0.0 else 1.0 / 0.0)
  else if rest == "nan".toList then some (0.0 / 0.0)
  else written? token

/-! ### Dates and times -/

/-- The number of the first `count` characters, which have to be digits, and what follows them. -/
def digits? (count : Nat) (text : List Char) : Option (Nat × List Char) := do
  guard (text.length ≥ count && (text.take count).all Text.isDigit)
  return (← Text.ofDigits? 10 (text.take count), text.drop count)

/-- What follows an expected character. -/
def after? (expected : Char) : List Char → Option (List Char)
  | char :: rest => if char == expected then some rest else none
  | [] => none

/-- How many days a month has. -/
def daysIn (year month : Nat) : Nat :=
  if month = 2 then if year % 4 = 0 && (year % 100 != 0 || year % 400 = 0) then 29 else 28
  else if [4, 6, 9, 11].contains month then 30
  else 31

/-- What follows a date. -/
def afterDate? (text : List Char) : Option (List Char) := do
  let (year, rest) ← digits? 4 text
  let (month, rest) ← after? '-' rest >>= digits? 2
  let (day, rest) ← after? '-' rest >>= digits? 2
  guard (1 ≤ month && month ≤ 12 && 1 ≤ day && day ≤ daysIn year month)
  return rest

/-- What follows the seconds of a time of day, which may be left out and may have a fraction. -/
def afterSeconds? : List Char → Option (List Char)
  | ':' :: rest => do
    let (second, rest) ← digits? 2 rest
    guard (second ≤ 60)
    match rest with
    | '.' :: fraction =>
      guard (fraction.head?.any Text.isDigit)
      return fraction.dropWhile Text.isDigit
    | rest => return rest
  | rest => some rest

/-- What follows hours and minutes. -/
def afterMinutes? (text : List Char) : Option (List Char) := do
  let (hour, rest) ← digits? 2 text
  let (minute, rest) ← after? ':' rest >>= digits? 2
  guard (hour ≤ 23 && minute ≤ 59)
  return rest

def afterTime? (text : List Char) : Option (List Char) := afterMinutes? text >>= afterSeconds?

/-- Whether nothing or a distance from universal time is written. -/
def isOffset : List Char → Bool
  | [] => true
  | [zone] => zone == 'Z' || zone == 'z'
  | sign :: rest => (sign == '+' || sign == '-') && afterMinutes? rest == some []

/-- Whether a token is a date, a time of day, or both with or without an offset. -/
def isMoment (token : List Char) : Bool :=
  match afterDate? token with
  | some [] => true
  | some (separator :: rest) =>
    "Tt ".toList.contains separator && (afterTime? rest).any isOffset
  | none => afterTime? token == some []

/-- The value that a token writes. -/
def scalar? (token : List Char) : Option TomlNode :=
  if token == "true".toList then some (.boolean true)
  else if token == "false".toList then some (.boolean false)
  else (integer? token).map .integer <|> (float? token).map .float
    <|> (if isMoment token then some (.moment token) else none)

end CharacterSim.Toml
