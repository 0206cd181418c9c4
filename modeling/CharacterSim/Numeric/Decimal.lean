import CharacterSim.Text.Digits

/-! Decimal numbers as they are written, and the amounts nearest to them. -/

namespace CharacterSim

/-- A whole number of units of a power of ten. -/
structure Decimal where
  negative : Bool := false
  digits : Nat
  exponent : Int := 0

namespace Decimal

/-- How many digits a number has. -/
def length (number : Nat) : Nat := (Nat.toDigits 10 number).length

/-- The nearest amount of a size. Beyond 310 places before the point every size is infinite, and with
330 zeros behind it none differs from zero. -/
def sizeToFloat (digits : Nat) (exponent : Int) : Float :=
  let places : Int := length digits + exponent
  if digits = 0 || places < -330 then 0.0
  else if places > 310 then 1.0 / 0.0
  else Float.ofScientific digits (exponent < 0) exponent.natAbs

/-- The amount nearest to a decimal number. -/
def toFloat (decimal : Decimal) : Float :=
  let size := sizeToFloat decimal.digits decimal.exponent
  if decimal.negative then -size else size

/-- A sign, and what follows it. -/
def splitSign : List Char → Bool × List Char
  | '-' :: rest => (true, rest)
  | '+' :: rest => (false, rest)
  | rest => (false, rest)

/-- The power of ten that an exponent part stands for; nothing stands for the zeroth. -/
def exponent? : List Char → Option Int
  | [] => some 0
  | mark :: rest =>
    if mark == 'e' || mark == 'E' then
      let (negative, digits) := splitSign rest
      (Text.ofDigits? 10 digits).map fun size => if negative then -size else size
    else none

/-- Reads a sign if there is one, digits with a point before, among or behind them if there is one,
and an exponent if there is one. -/
def ofChars? (text : List Char) : Option Decimal := do
  let (negative, rest) := splitSign text
  let whole := rest.takeWhile Text.isDigit
  let afterWhole := rest.dropWhile Text.isDigit
  let (fraction, tail) :=
    match afterWhole with
    | '.' :: more => (more.takeWhile Text.isDigit, more.dropWhile Text.isDigit)
    | more => ([], more)
  let digits ← Text.ofDigits? 10 (whole ++ fraction)
  let exponent ← exponent? tail
  return { negative, digits, exponent := exponent - fraction.length }

end Decimal

end CharacterSim
