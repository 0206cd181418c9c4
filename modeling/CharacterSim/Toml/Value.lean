/-! TOML documents as trees of keys. -/

namespace CharacterSim

/-- How a table came to be, which decides what may be added to it later. -/
inductive TomlOrigin where
  /-- It lies on the way to a table with a header of its own. -/
  | passed
  /-- It has a header, is an element of an array of tables, or is the document. -/
  | headed
  /-- It lies on the way to a dotted key. -/
  | dotted
  deriving DecidableEq

/-- What a key stands for. -/
inductive TomlNode where
  | integer (value : Int)
  | float (value : Float)
  | boolean (value : Bool)
  | text (value : String)
  /-- A date, a time of day, or both, as written. -/
  | moment (token : List Char)
  | array (items : List TomlNode)
  /-- A table written as a value, to which nothing can be added. -/
  | inlineTable (entries : List (String × TomlNode))
  | table (origin : TomlOrigin) (entries : List (String × TomlNode))
  /-- An array of tables, which grows by headers. -/
  | tables (elements : List (List (String × TomlNode)))
  deriving Inhabited

/-- The keys of a table and what they stand for, in the order of definition. -/
abbrev TomlEntries := List (String × TomlNode)

namespace TomlEntries

def get? (entries : TomlEntries) (key : String) : Option TomlNode := List.lookup key entries

/-- The entries with a key bound anew, in its old place if it has one. -/
def set (key : String) (node : TomlNode) : TomlEntries → TomlEntries
  | [] => [(key, node)]
  | entry :: rest => if entry.1 == key then (key, node) :: rest else entry :: set key node rest

/-- The entries with a key that was not bound before. -/
def define? (entries : TomlEntries) (key : String) (node : TomlNode) : Option TomlEntries :=
  if (entries.get? key).isSome then none else some (entries ++ [(key, node)])

/-- Changes the table at the end of a path and makes the tables on the way that are missing. A path of
a dotted key leads through no table that has a header; of an array of tables it takes the last. -/
def change? (dotted : Bool) (change : TomlOrigin → TomlEntries → Option TomlEntries)
    (origin : TomlOrigin) : List String → TomlEntries → Option TomlEntries
  | [], entries => change origin entries
  | key :: path, entries =>
    match entries.get? key with
    | none => do
      let origin : TomlOrigin := if dotted then .dotted else .passed
      return entries.set key (.table origin (← change? dotted change origin path []))
    | some (.table origin inner) =>
      if dotted && origin == .headed then none
      else do return entries.set key (.table origin (← change? dotted change origin path inner))
    | some (.tables elements) =>
      match elements.getLast? with
      | none => none
      | some last => do
        return entries.set key
          (.tables (elements.dropLast ++ [← change? dotted change .headed path last]))
    | some _ => none

/-- Binds a dotted key, whose last part is `key`. The table it is bound in is the one the path starts
from or was itself made for dotted keys. -/
def bind? (entries : TomlEntries) (path : List String) (key : String) (node : TomlNode) :
    Option TomlEntries :=
  change? true (fun origin entries =>
    if (origin == .dotted) == path.isEmpty then none else entries.define? key node)
    .headed path entries

/-- Opens the table of a header. Only a table that so far was passed on the way to others can be opened
again. -/
def open? (entries : TomlEntries) (path : List String) (key : String) : Option TomlEntries :=
  change? false (fun _ entries =>
    match entries.get? key with
    | none => entries.define? key (.table .headed [])
    | some (.table .passed inner) => some (entries.set key (.table .headed inner))
    | some _ => none) .headed path entries

/-- Appends a table to an array of tables. -/
def append? (entries : TomlEntries) (path : List String) (key : String) : Option TomlEntries :=
  change? false (fun _ entries =>
    match entries.get? key with
    | none => entries.define? key (.tables [[]])
    | some (.tables elements) => some (entries.set key (.tables (elements ++ [[]])))
    | some _ => none) .headed path entries

/-- Binds a dotted key in the table of a header. -/
def bindUnder? (entries : TomlEntries) (header path : List String) (key : String)
    (node : TomlNode) : Option TomlEntries :=
  change? false (fun _ entries => entries.bind? path key node) .headed header entries

end TomlEntries

end CharacterSim
