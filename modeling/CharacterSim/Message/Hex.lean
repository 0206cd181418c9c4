import CharacterSim.Text.Digits

/-! Bytes written as pairs of hexadecimal digits. -/

namespace CharacterSim.Hex

/-- A number in so many lower-case digits, if they suffice. -/
def ofNat (width number : Nat) : List Char := (Nat.toDigits 16 number).leftpad width '0'

def ofBytes (bytes : List UInt8) : String := .ofList (bytes.flatMap fun byte => ofNat 2 byte.toNat)

/-- The bytes that pairs of digits write, up to the first that is none. -/
def toBytes : List Char → List UInt8
  | high :: low :: rest =>
    match Text.ofDigits? 16 [high, low] with
    | some value => .ofNat value :: toBytes rest
    | none => []
  | _ => []

end CharacterSim.Hex
