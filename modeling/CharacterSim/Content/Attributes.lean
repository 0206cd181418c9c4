import CharacterSim.Content.Error
import CharacterSim.Ron.Fields
import CharacterSim.Ron.Reader
import CharacterSim.Text.Blank

/-! Attribute catalogs written in RON. -/

namespace CharacterSim

namespace ScopeSet

/-- The sets that have names. -/
def named : List (String × ScopeSet) :=
  [("CHARACTER", character), ("MONSTER", monster), ("BEING", being)]

/-- The set that a name or a number of two hexadecimal digits stands for. -/
def ofWord? (word : List Char) : Option ScopeSet :=
  match word with
  | '0' :: 'x' :: digits => do
    let digits := if digits.head? == some '+' then digits.drop 1 else digits
    let bits ← Text.ofDigits? 16 digits
    if bits < 256 then some ⟨.ofNat bits⟩ else none
  | _ => (named.find? fun entry => entry.1.toList == word).map (·.2)

/-- The union of the sets whose names a text lists between bars; an empty text lists none. -/
def ofText? (text : String) : Option ScopeSet := do
  if (Text.trim text.toList).isEmpty then return empty
  let sets ← (Text.splitAt '|' text.toList).mapM fun word => ofWord? (Text.trim word)
  return sets.foldl union empty

end ScopeSet

/-- One attribute as a catalog lists it. -/
structure AttributeEntry where
  id : UInt16
  name : String
  scopes : ScopeSet
  modifiable : Bool := false
  /-- Sources and weights, in the order of the file. -/
  derivedFrom : List (UInt16 × Float) := []
  min : Option Float := none
  max : Option Float := none
  defaultBase : Float := 0.0

namespace AttributeEntry

/-- The rule that a list of sources and weights describes. -/
def derivation (terms : List (UInt16 × Float)) : Derivation :=
  if terms.isEmpty then .base
  else .linear (terms.map fun (source, weight) => { source := ⟨source⟩, weight })

/-- The definition that an entry describes; a bound that is not given is the farthest finite one. -/
def info (entry : AttributeEntry) : AttributeInfo where
  id := ⟨entry.id⟩
  name := entry.name
  scopes := entry.scopes
  modifiable := entry.modifiable
  derivation := derivation entry.derivedFrom
  bounds := ⟨entry.min.getD Amount.lowest, entry.max.getD Amount.highest⟩
  defaultBase := entry.defaultBase

/-- A source and its weight. -/
def term? : RonValue → Option (UInt16 × Float) :=
  RonValue.pair? (fun value => UInt16.ofNat <$> value.unsigned? 16) RonValue.amount?

def ofRon? (extensions : RonExtensions) (value : RonValue) : Option AttributeEntry := do
  let fields ← value.fields? extensions "AttributeRon"
  let bound := RonValue.option? extensions RonValue.amount?
  return {
    id := .ofNat (← RonFields.required? fields "id" (RonValue.unsigned? 16))
    name := ← RonFields.required? fields "name" RonValue.text?
    scopes := ← RonFields.required? fields "scopes" fun value => value.text? >>= ScopeSet.ofText?
    modifiable := ← RonFields.optional? fields "modifiable" false RonValue.bool?
    derivedFrom := ← RonFields.optional? fields "derived_from" [] (RonValue.list? term?)
    min := ← RonFields.optional? fields "min" none bound
    max := ← RonFields.optional? fields "max" none bound
    defaultBase := ← RonFields.optional? fields "default_base" 0.0 RonValue.amount? }

/-- The entries of a document. -/
def ofDocument? (document : RonDocument) : Option (List AttributeEntry) := do
  let fields ← document.value.fields? document.extensions "AttributeCatalogRon"
  RonFields.required? fields "attributes" (RonValue.list? (ofRon? document.extensions))

/-- The entries that a text is read as. -/
def ofText? (text : String) : Option (List AttributeEntry) :=
  Ron.document.ofText? text >>= ofDocument?

end AttributeEntry

namespace AttributeRegistry

/-- The catalog of the listed attributes. -/
def ofEntries (entries : List AttributeEntry) : Except ContentError AttributeRegistry :=
  (ofList (entries.map AttributeEntry.info)).mapError fun error =>
    (ContentError.ofRegistry error).within "Invalid attribute registry"

/-- The catalog that a text describes to a reader. -/
def ofReader (read : String → Option (List AttributeEntry)) (text : String) :
    Except ContentError AttributeRegistry :=
  match read text with
  | some entries => ofEntries entries
  | none => .error (.ofText "Failed to parse attribute catalog RON")

/-- The catalog that a text in RON describes. -/
def ofRon (text : String) : Except ContentError AttributeRegistry :=
  ofReader AttributeEntry.ofText? text

end AttributeRegistry

end CharacterSim
