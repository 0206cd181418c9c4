import CharacterSim.Text.Scan
import CharacterSim.Toml.Scalar

/-! Reading TOML documents. -/

namespace CharacterSim.Toml

/-! ### Space, comments, and ends of lines -/

def isSpace (char : Char) : Bool := char == ' ' || char == '\t'

/-- Characters that may stand in a line, in comments as in strings. -/
def isPrintable (char : Char) : Bool :=
  char == '\t' || (0x20 ≤ char.toNat && char.toNat != 0x7F)

def spaces : Scan Unit := do
  let _ ← Scan.takeWhile isSpace

/-- What is left after space and a comment. -/
def afterComment (text : List Char) : List Char :=
  match text.dropWhile isSpace with
  | '#' :: rest => rest.dropWhile isPrintable
  | rest => rest

theorem length_afterComment (text : List Char) : (afterComment text).length ≤ text.length := by
  have hspace := (List.dropWhile_sublist isSpace (l := text)).length_le
  unfold afterComment
  split
  · rename_i rest h
    have hcomment := (List.dropWhile_sublist isPrintable (l := rest)).length_le
    rw [h, List.length_cons] at hspace
    omega
  · exact hspace

/-- What is left after space, comments and ends of lines. -/
def afterGap (text : List Char) : List Char :=
  match _h : afterComment text with
  | '\n' :: rest => afterGap rest
  | '\r' :: '\n' :: rest => afterGap rest
  | rest => rest
termination_by text.length
decreasing_by
  all_goals
    have := length_afterComment text
    rw [_h] at this
    simp only [List.length_cons] at this
    omega

/-- Takes space, comments and ends of lines. -/
def gap : Scan Unit := modify afterGap

/-- Takes an end of line, and says whether there was one. -/
def newline : Scan Bool := do
  match ← get with
  | '\n' :: rest =>
    set rest
    return true
  | '\r' :: '\n' :: rest =>
    set rest
    return true
  | _ => return false

/-- Takes the rest of a line, which ends there or with the text. -/
def endOfLine : Scan Unit := do
  modify afterComment
  let ended ← newline
  guard (ended || (← get).isEmpty)

/-! ### Strings -/

/-- The character whose number is written in so many hexadecimal digits. -/
def numberedChar (count : Nat) : Scan Char := do
  let code ← Text.ofDigits? 16 (← Scan.exactly Text.isHexDigit count)
  let char ← Text.charOfNat? code
  return char

/-- The character that an escape stands for, after its backslash. -/
def escape : Scan Char := do
  match ← Scan.next with
  | 'b' => return '\x08'
  | 't' => return '\t'
  | 'n' => return '\n'
  | 'f' => return '\x0c'
  | 'r' => return '\r'
  | 'e' => return '\x1b'
  | '"' => return '"'
  | '\\' => return '\\'
  | 'x' => numberedChar 2
  | 'u' => numberedChar 4
  | 'U' => numberedChar 8
  | _ => failure

/-- The characters of a string of one line up to its closing quote. Only double quotes let escapes have
a meaning. -/
def lineWithin (quote : Char) : Nat → Scan (List Char)
  | 0 => failure
  | limit + 1 => do
    let char ← Scan.next
    if char == quote then return []
    let char ← if char == '\\' && quote == '"' then escape else
      guard (isPrintable char)
      pure char
    return char :: (← lineWithin quote limit)

/-- A string of one line after its opening quote. -/
def line (quote : Char) : Scan String := do
  return .ofList (← lineWithin quote ((← get).length + 1))

/-- Takes the end of a line and all space up to the next character, which a backslash makes
meaningless. -/
def foldedWithin : Nat → Scan Unit
  | 0 => failure
  | limit + 1 => do
    spaces
    if ← newline then foldedWithin limit

/-- The characters of a string of several lines up to its three closing quotes, before which two more
may stand as characters. -/
def linesWithin (quote : Char) : Nat → Scan (List Char)
  | 0 => failure
  | limit + 1 => do
    let text ← get
    let quotes := text.takeWhile (· == quote)
    if quotes.length ≥ 3 then
      guard (quotes.length ≤ 5)
      set (text.drop quotes.length)
      return quotes.drop 3
    if ← newline then return '\n' :: (← linesWithin quote limit)
    let char ← Scan.next
    if char == '\\' && quote == '"' then
      let rest := (← get).dropWhile isSpace
      if rest.head? == some '\n' || rest.head? == some '\r' then
        spaces
        guard (← newline)
        foldedWithin limit
        linesWithin quote limit
      else
        let char ← escape
        return char :: (← linesWithin quote limit)
    else
      guard (isPrintable char)
      return char :: (← linesWithin quote limit)

/-- A string of several lines after its three opening quotes. An end of line right behind them is no
part of it. -/
def lines (quote : Char) : Scan String := do
  let _ ← newline
  return .ofList (← linesWithin quote ((← get).length + 1))

/-- A string in double or single quotes. -/
def string : Scan String := do
  match ← get with
  | '"' :: '"' :: '"' :: rest =>
    set rest
    lines '"'
  | '\'' :: '\'' :: '\'' :: rest =>
    set rest
    lines '\''
  | '"' :: rest =>
    set rest
    line '"'
  | '\'' :: rest =>
    set rest
    line '\''
  | _ => failure

/-! ### Keys -/

def isBareKeyPart (char : Char) : Bool := char.isAlphanum || char == '_' || char == '-'

/-- One part of a key: bare, or a string of one line. -/
def keyPart : Scan String := do
  match ← get with
  | '"' :: rest =>
    set rest
    line '"'
  | '\'' :: rest =>
    set rest
    line '\''
  | _ =>
    let part ← Scan.takeWhile isBareKeyPart
    guard !part.isEmpty
    return .ofList part

/-- The parts of a key from the first one on, at most so many: those before the last one, and the last
one. -/
def keyWithin (first : String) : Nat → Scan (List String × String)
  | 0 => failure
  | limit + 1 => do
    spaces
    if ← Scan.skip '.' then
      spaces
      let (path, key) ← keyWithin (← keyPart) limit
      return (first :: path, key)
    return ([], first)

/-- How many parts a key may have. -/
def partLimit : Nat := 80

/-- A key with dots between its parts. -/
def key : Scan (List String × String) := do keyWithin (← keyPart) partLimit

/-! ### Values -/

def isScalarPart (char : Char) : Bool := char.isAlphanum || "_+-.:".toList.contains char

/-- A value without quotes. A space may stand between a date and a time. -/
def scalar : Scan TomlNode := do
  let token ← Scan.takeWhile isScalarPart
  let token ← match ← get with
    | ' ' :: digit :: rest =>
      if afterDate? token == some [] && Text.isDigit digit then
        set (digit :: rest)
        pure (token ++ ' ' :: (← Scan.takeWhile isScalarPart))
      else pure token
    | _ => pure token
  let value ← scalar? token
  return value

/-- A key, an equals sign and a value, with space around the sign. -/
def binding (space : Scan Unit) (value : Scan TomlNode) :
    Scan ((List String × String) × TomlNode) := do
  let key ← key
  space
  Scan.char '='
  space
  return (key, ← value)

/-- A value, in which arrays and tables may lie in each other at most `depth` deep. -/
def value (depth : Nat) : Scan TomlNode := do
  match depth, ← get with
  | depth + 1, '[' :: rest =>
    set rest
    return .array (← Scan.items gap ']' (value depth))
  | depth + 1, '\x7b' :: rest =>
    set rest
    let bindings ← Scan.items gap '\x7d' (binding gap (value depth))
    let entries : TomlEntries ← liftM (bindings.foldlM (fun entries ((path, key), node) =>
      TomlEntries.bind? entries path key node) ([] : TomlEntries))
    return .inlineTable entries
  | _, '"' :: _ | _, '\'' :: _ => .text <$> string
  | _, _ => scalar

/-- How deep arrays and inline tables may lie in each other. -/
def depthLimit : Nat := 80

/-! ### Documents -/

/-- The key of a header between brackets. -/
def header : Scan (List String × String) := do
  spaces
  key

/-- One expression, given the header it stands under and the entries before it. -/
def expression (under : List String) (entries : TomlEntries) :
    Scan (List String × TomlEntries) := do
  match ← get with
  | '[' :: '[' :: rest =>
    set rest
    let (path, key) ← header
    Scan.text "]]"
    return (path ++ [key], ← liftM (TomlEntries.append? entries path key))
  | '[' :: rest =>
    set rest
    let (path, key) ← header
    Scan.char ']'
    return (path ++ [key], ← liftM (TomlEntries.open? entries path key))
  | _ =>
    let ((path, key), node) ← binding spaces (value depthLimit)
    return (under, ← liftM (TomlEntries.bindUnder? entries under path key node))

/-- Expressions on lines of their own up to the end of the text, at most so many. -/
def expressionsWithin (under : List String) (entries : TomlEntries) : Nat → Scan TomlEntries
  | 0 => failure
  | limit + 1 => do
    gap
    if (← get).isEmpty then return entries
    let (under, entries) ← expression under entries
    endOfLine
    expressionsWithin under entries limit

/-- A whole document, before which a byte order mark may stand. -/
def document : Scan TomlEntries := do
  let _ ← Scan.skip '\ufeff'
  expressionsWithin [] [] ((← get).length + 1)

end CharacterSim.Toml
