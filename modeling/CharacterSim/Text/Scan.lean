/-! Readers of text from front to back. A reader takes characters and makes a value of them, or it
refuses the text; a refusal says nothing more, and what was taken before it is given back. -/

namespace CharacterSim

/-- A reader, whose state is what is left of the text. -/
abbrev Scan := StateT (List Char) Option

namespace Scan

variable {α : Type}

/-- What a reader makes of a whole text. -/
def ofText? (scan : Scan α) (text : String) : Option α :=
  match scan.run text.toList with
  | some (value, []) => some value
  | _ => none

/-- Whether the text goes on with a character. -/
def sees (char : Char) : Scan Bool := return (← get).head? == some char

/-- Takes the next character. -/
def next : Scan Char := do
  match ← get with
  | [] => failure
  | char :: rest =>
    set rest
    return char

/-- Takes the given character, which has to come next. -/
def char (expected : Char) : Scan Unit := do
  guard ((← next) == expected)

/-- Takes the given text, which has to come next. -/
def text (expected : String) : Scan Unit := expected.toList.forM char

/-- Takes the character if it comes next, and says whether it did. -/
def skip (expected : Char) : Scan Bool := do
  if ← sees expected then
    char expected
    return true
  return false

/-- Takes the longest beginning of characters with a property. -/
def takeWhile (p : Char → Bool) : Scan (List Char) := do
  let rest ← get
  set (rest.dropWhile p)
  return rest.takeWhile p

/-- Takes exactly so many characters with a property. -/
def exactly (p : Char → Bool) : Nat → Scan (List Char)
  | 0 => return []
  | count + 1 => do
    let first ← next
    guard (p first)
    return first :: (← exactly p count)

/-- Takes everything before the given text, and the text itself. -/
def through (ending : List Char) : List Char → Option (List Char × List Char)
  | [] => if ending.isEmpty then some ([], []) else none
  | first :: rest =>
    if ending.isPrefixOf (first :: rest) then some ([], (first :: rest).drop ending.length)
    else (through ending rest).map fun (before, after) => (first :: before, after)

/-- Takes what a reader takes, or nothing where it refuses. -/
def attempt (scan : Scan α) : Scan Unit := fun text =>
  match scan.run text with
  | some (_, rest) => some ((), rest)
  | none => some ((), text)

/-- What a reader makes of the text, of which nothing is taken. -/
def ahead (scan : Scan α) : Scan α := fun text =>
  (scan.run text).map fun (value, _) => (value, text)

/-- Takes items of a list up to its closing character, which is left. A comma is between two items and
may follow the last; `gap` takes what means nothing. -/
def itemsWithin (gap : Scan Unit) (close : Char) (item : Scan α) : Nat → Scan (List α)
  | 0 => failure
  | limit + 1 => do
    gap
    if ← sees close then return []
    let first ← item
    gap
    if ← skip ',' then return first :: (← itemsWithin gap close item limit)
    guard (← sees close)
    return [first]

/-- `itemsWithin` for as many items as the text can hold. -/
def itemsBefore (gap : Scan Unit) (close : Char) (item : Scan α) : Scan (List α) := do
  itemsWithin gap close item ((← get).length + 1)

/-- Takes items of a list and its closing character. -/
def items (gap : Scan Unit) (close : Char) (item : Scan α) : Scan (List α) := do
  let items ← itemsBefore gap close item
  char close
  return items

end Scan

end CharacterSim
