import CharacterSim.Ron.Number
import CharacterSim.Ron.Value
import CharacterSim.Text.Identifier
import CharacterSim.Text.Scan

/-! Reading RON documents. -/

namespace CharacterSim.Ron

def isSpace (char : Char) : Bool :=
  [0x20, 0x9, 0xA, 0xB, 0xC, 0xD, 0x85, 0x200E, 0x200F, 0x2028, 0x2029].contains char.toNat

/-- What is left after the comments that are open, one inside the other, are closed. -/
def closeComments : Nat → List Char → Option (List Char)
  | 0, rest => some rest
  | _ + 1, [] => none
  | depth + 1, '/' :: '*' :: rest => closeComments (depth + 2) rest
  | depth + 1, '*' :: '/' :: rest => closeComments depth rest
  | depth + 1, _ :: rest => closeComments (depth + 1) rest

theorem length_closeComments {depth : Nat} {text rest : List Char}
    (h : closeComments depth text = some rest) : rest.length ≤ text.length := by
  fun_induction closeComments depth text with
  | case1 => exact Nat.le_of_eq (congrArg List.length (Option.some.inj h)).symm
  | case2 => exact absurd h (by simp)
  | case3 _ _ ih | case4 _ _ ih | case5 _ _ _ _ _ ih =>
    have := ih h
    simp only [List.length_cons]
    omega

/-- What is left after space and comments. -/
def afterGap (text : List Char) : Option (List Char) :=
  match _h : text.dropWhile isSpace with
  | '/' :: '/' :: rest => afterGap (rest.dropWhile (· != '\n'))
  | '/' :: '*' :: rest =>
    match _hclose : closeComments 1 rest with
    | some after => afterGap after
    | none => none
  | '/' :: _ => none
  | rest => some rest
termination_by text.length
decreasing_by
  all_goals
    have hspace := (List.dropWhile_sublist isSpace (l := text)).length_le
    rw [_h] at hspace
    simp only [List.length_cons] at hspace
  · have := (List.dropWhile_sublist (· != '\n') (l := rest)).length_le
    omega
  · have := length_closeComments _hclose
    omega

/-- Takes space and comments. -/
def gap : Scan Unit := fun text => (afterGap text).map (Prod.mk ())

/-! ### Strings and characters -/

/-- The character whose number stands in braces, in one to six digits. -/
def numberedChar : Scan Char := do
  Scan.char '\x7b'
  let digits ← Scan.takeWhile Text.isHexDigit
  guard (digits.length ≤ 6)
  Scan.char '\x7d'
  let code ← Text.ofDigits? 16 digits
  let char ← Text.charOfNat? code
  return char

/-- The byte that a character stands for behind a backslash, with two digits more behind an x. -/
def escapedByte : Char → Scan UInt8
  | '\'' => return 39
  | '"' => return 34
  | '\\' => return 92
  | 'n' => return 10
  | 'r' => return 13
  | 't' => return 9
  | '0' => return 0
  | 'x' => do
    let code ← Text.ofDigits? 16 (← Scan.exactly Text.isHexDigit 2)
    return .ofNat code
  | _ => failure

/-- The bytes that an escape stands for, after its backslash. -/
def escape : Scan (List UInt8) := do
  match ← Scan.next with
  | 'u' => return String.utf8EncodeChar (← numberedChar)
  | char => return [← escapedByte char]

/-- The bytes of a string up to its closing quote, in at most so many steps. -/
def quotedWithin : Nat → Scan (List UInt8)
  | 0 => failure
  | limit + 1 => do
    match ← Scan.next with
    | '"' => return []
    | '\\' =>
      let bytes ← escape
      return bytes ++ (← quotedWithin limit)
    | char => return String.utf8EncodeChar char ++ (← quotedWithin limit)

/-- The bytes of a string after its opening quote. -/
def quoted : Scan (List UInt8) := do quotedWithin ((← get).length + 1)

/-- The characters of a string without escapes, which as many hashes follow as precede it. -/
def raw : Scan (List Char) := do
  let hashes ← Scan.takeWhile (· == '#')
  Scan.char '"'
  Scan.through ('"' :: hashes)

/-- The text of bytes, which have to encode one. -/
def ofBytes (bytes : List UInt8) : Scan String := String.fromUTF8? ⟨bytes.toArray⟩

/-- One character or escape up to the closing quote. -/
def singleQuoted : Scan Char := do
  let bytes ← match ← Scan.next with
    | '\\' => escape
    | char => pure (String.utf8EncodeChar char)
  Scan.char '\''
  match (← ofBytes bytes).toList with
  | [char] => return char
  | _ => failure

/-- A byte up to the closing quote. -/
def byte : Scan UInt8 := do
  let char ← Scan.next
  let byte ← if char == '\\' then escapedByte (← Scan.next) else
    guard (char.toNat < 128)
    pure (.ofNat char.toNat)
  Scan.char '\''
  return byte

/-! ### Names -/

/-- Whether what follows is a string, character or byte that begins like a name. -/
def seesLiteral : Scan Bool := do
  let text ← get
  return ["b\"", "b'", "br\"", "br#", "r\"", "r#\"", "r##"].any fun opening =>
    opening.toList.isPrefixOf text

/-- The characters of a name written behind `r#`. -/
def isRawPart (char : Char) : Bool := Text.Identifier.isPart char || ".+-".toList.contains char

/-- A name. -/
def name : Scan String := do
  guard !(← seesLiteral)
  if "r#".toList.isPrefixOf (← get) then
    Scan.text "r#"
    let name ← Scan.takeWhile isRawPart
    guard !name.isEmpty
    return .ofList name
  let first ← Scan.next
  guard (Text.Identifier.isStart first || first == '_')
  return .ofList (first :: (← Scan.takeWhile Text.Identifier.isPart))

/-- Whether a name comes next, which then is taken. -/
def skipName : Scan Bool := do
  let named := (name.run (← get)).isSome
  Scan.attempt name
  return named

/-! ### Literals -/

def isNumberPart (char : Char) : Bool := char.isAlphanum || "_.+-".toList.contains char

def number : Scan RonValue := do
  let token ← Scan.takeWhile isNumberPart
  guard (RonNumber.isNumber token)
  return .number token

/-- A string with or without escapes. -/
def string : Scan String := do
  if ← Scan.skip '"' then ofBytes (← quoted)
  else
    Scan.char 'r'
    return .ofList (← raw)

def character : Scan Char := do
  Scan.char '\''
  singleQuoted

/-- A string of bytes with or without escapes. -/
def byteString : Scan (List UInt8) := do
  Scan.char 'b'
  if ← Scan.skip '"' then quoted
  else
    Scan.char 'r'
    return (← raw).flatMap String.utf8EncodeChar

/-- A value that has no parts and is no name. -/
def literal : Scan RonValue := do
  match ← get with
  | '"' :: _ | 'r' :: _ => .text <$> string
  | '\'' :: _ => .character <$> character
  | 'b' :: '\'' :: rest =>
    set rest
    .byte <$> byte
  | 'b' :: _ => .bytes <$> byteString
  | _ => number

def seesLiteralValue : Scan Bool := do
  let beginsLiteral (char : Char) := "\"'+-.".toList.contains char || Text.isDigit char
  return (← seesLiteral) || (← get).head?.any beginsLiteral

/-! ### Values -/

/-- A name and a colon. -/
def key : Scan String := do
  let key ← name
  gap
  Scan.char ':'
  gap
  return key

/-- Items in parentheses up to the closing one: fields if the first has a name, otherwise values. -/
def parts (item : Scan RonValue) (typeName : Option String) : Scan RonValue := do
  gap
  if (key.run (← get)).isSome then
    return .record typeName (← Scan.itemsBefore gap ')' do return (← key, ← item))
  return .tuple typeName (← Scan.itemsBefore gap ')' item)

/-- Items in parentheses after the opening one. -/
def parenthesised (item : Scan RonValue) (typeName : Option String) : Scan RonValue := do
  let value ← parts item typeName
  Scan.char ')'
  return value

/-- Whether something other than the end of the parentheses follows, after a comma. -/
def goesOn : Scan Bool := do
  gap
  return !(← Scan.sees ')')

/-- Whether a comma follows with another item after it, or whether so many groups that are open are
closed first. A literal is passed over as a whole, and with it the character behind it. -/
def goesOnWithin (groups : Nat) : Nat → Scan Bool
  | 0 => failure
  | limit + 1 => do
    gap
    Scan.attempt character
    Scan.attempt string
    Scan.attempt byteString
    match ← Scan.next with
    | '(' | '[' | '\x7b' => goesOnWithin (groups + 1) limit
    | ')' | ']' | '\x7d' => if groups ≤ 1 then return false else goesOnWithin (groups - 1) limit
    | ',' => if groups = 1 then goesOn else goesOnWithin groups limit
    | _ => goesOnWithin groups limit

/-- Whether parentheses hold fields or several values, not a single value. -/
def holdsParts : Scan Bool := do
  gap
  if ← skipName then
    gap
    if ← Scan.sees ':' then return true
    if ← Scan.skip ',' then return ← goesOn
    if ← Scan.sees ')' then return false
  goesOnWithin 1 ((← get).length + 1)

/-- The value that `Some` was written before. Its parentheses may be those of `Some` itself. -/
def afterSome (extensions : RonExtensions) (inner : Bool → Scan RonValue) : Scan RonValue := do
  gap
  if ← Scan.skip '(' then
    gap
    let value ← inner extensions.unwrapVariants
    gap
    if ← Scan.skip ',' then gap
    Scan.char ')'
    return .optional (some value)
  guard extensions.implicitSome
  return .optional (some (← inner false))

def constants : List String :=
  ["true", "false", "inf", "NaN", "inff32", "inff64", "NaNf32", "NaNf64"]

/-- A value that begins with a name. One written behind `r#` has no meaning of its own. -/
def named (extensions : RonExtensions) (room : Bool) (inner : Bool → Scan RonValue)
    (part : Scan RonValue) : Scan RonValue := do
  let plain := !"r#".toList.isPrefixOf (← get)
  let name ← name
  if plain && constants.contains name then return .constant name
  if plain && name == "None" then return .optional none
  if plain && name == "Some" then return ← afterSome extensions inner
  gap
  if ← Scan.skip '(' then
    guard room
    parenthesised part (some name)
  else return .tuple (some name) []

/-- A value whose parts are read by `part`, if there is room for any, and what it may be behind `Some`
by `inner`. -/
def valueOf (extensions : RonExtensions) (room : Bool) (inner : Bool → Scan RonValue)
    (part : Scan RonValue) : Scan RonValue := do
  if ← seesLiteralValue then literal
  else if ← Scan.skip '[' then
    guard room
    return .list (← Scan.items gap ']' part)
  else if ← Scan.skip '(' then
    if ← Scan.skip ')' then return .tuple none []
    guard room
    parenthesised part none
  else if ← Scan.skip '\x7b' then
    guard room
    return .map (← Scan.items gap '\x7d' do
      let key ← part
      gap
      Scan.char ':'
      gap
      return (key, ← part))
  else named extensions room inner part

/-- A value in parentheses that were opened before it, and that are its own if it has parts. -/
def enclosed (extensions : RonExtensions) (room : Bool) (inner : Bool → Scan RonValue)
    (part : Scan RonValue) : Scan RonValue := do
  if ← Scan.sees ')' then return .tuple none []
  if ← Scan.ahead holdsParts then
    guard room
    parts part none
  else valueOf extensions room inner part

/-- A value, or a value in open parentheses that may be its own. Entering a value takes up one of the
`levels` there are, and each of its parts another; what is behind `Some` takes up one. -/
def value (extensions : RonExtensions) : Nat → Bool → Scan RonValue
  | 0, inside =>
    (if inside then enclosed else valueOf) extensions false (fun _ => failure) failure
  | 1, inside =>
    (if inside then enclosed else valueOf) extensions true (value extensions 0) failure
  | levels + 2, inside =>
    (if inside then enclosed else valueOf) extensions true (value extensions (levels + 1))
      (value extensions levels false)

/-! ### Documents -/

/-- Takes each text in turn, and the gap after it. -/
def texts : List String → Scan Unit
  | [] => return ()
  | first :: rest => do
    Scan.text first
    gap
    texts rest

/-- What the name of an extension adds to those before it. -/
def extension? (extensions : RonExtensions) : String → Option RonExtensions
  | "implicit_some" => some { extensions with implicitSome := true }
  | "explicit_struct_names" => some { extensions with explicitNames := true }
  | "unwrap_newtypes" => some extensions
  | "unwrap_variant_newtypes" => some { extensions with unwrapVariants := true }
  | _ => none

/-- The extensions that a document enables before its value, in at most so many attributes. -/
def extensionsWithin (extensions : RonExtensions) : Nat → Scan RonExtensions
  | 0 => failure
  | limit + 1 => do
    gap
    if !(← Scan.sees '#') then return extensions
    texts ["#", "!", "[", "enable", "("]
    let names ← Scan.items gap ')' name
    guard !names.isEmpty
    gap
    Scan.char ']'
    let extensions : RonExtensions ← liftM (names.foldlM extension? extensions)
    extensionsWithin extensions limit

/-- How many levels a document may have. -/
def levelLimit : Nat := 128

/-- A whole document: extensions and a value. -/
def document : Scan RonDocument := do
  let extensions ← extensionsWithin {} ((← get).length + 1)
  let value ← value extensions levelLimit false
  gap
  return { extensions, value }

end CharacterSim.Ron
