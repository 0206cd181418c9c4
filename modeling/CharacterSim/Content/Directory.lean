import CharacterSim.Content.Abilities
import CharacterSim.Content.Attributes
import CharacterSim.Content.Config

/-! Directories of content: a file each for the settings, the attributes and the abilities. Only the
settings may be missing. -/

namespace CharacterSim

inductive DirectoryEntry where
  | file (bytes : List UInt8)
  | folder

/-- A directory: what errors call it, and what lies in it by name. -/
structure ContentDirectory where
  path : String
  entries : List (String × DirectoryEntry)

/-- All that a directory describes. -/
structure Content where
  config : GameConfig
  attributes : AttributeRegistry
  abilities : AbilityCatalog

namespace ContentDirectory

def find? (directory : ContentDirectory) (name : String) : Option DirectoryEntry :=
  (directory.entries.find? fun entry => entry.1 == name).map (·.2)

/-- The path of a file in the directory. -/
def pathOf (directory : ContentDirectory) (name : String) : String := s!"{directory.path}/{name}"

/-- The text of a file. -/
def text? (directory : ContentDirectory) (name : String) : Option String :=
  match directory.find? name with
  | some (.file bytes) => String.fromUTF8? ⟨bytes.toArray⟩
  | _ => none

def readText (directory : ContentDirectory) (name : String) : Except ContentError String :=
  match directory.text? name with
  | some text => .ok text
  | none => .error (.ofText s!"Failed to read file {directory.pathOf name}")

def loadConfig (directory : ContentDirectory) : Except ContentError GameConfig :=
  if (directory.find? "config.toml").isNone then .ok {}
  else directory.readText "config.toml" >>= GameConfig.ofToml

def loadAttributes (directory : ContentDirectory) : Except ContentError AttributeRegistry := do
  (AttributeRegistry.ofRon (← directory.readText "attributes.ron")).mapError
    (·.within ("in " ++ directory.pathOf "attributes.ron"))

def loadAbilities (directory : ContentDirectory) : Except ContentError AbilityCatalog :=
  directory.readText "abilities.ron" >>= AbilityCatalog.ofRon

def load (directory : ContentDirectory) : Except ContentError Content := do
  return {
    config := ← directory.loadConfig
    attributes := ← directory.loadAttributes
    abilities := ← directory.loadAbilities }

end ContentDirectory

end CharacterSim
