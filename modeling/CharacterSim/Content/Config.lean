import CharacterSim.Config
import CharacterSim.Content.Error
import CharacterSim.Text.Scan
import CharacterSim.Toml.Reader

/-! Settings written in TOML. -/

namespace CharacterSim.GameConfig

/-- The whole number that a key stands for, or what stands in for a key that is not bound. -/
def setting? (entries : TomlEntries) (key : String) (least greatest fallback : Int) : Option Int :=
  match entries.get? key with
  | none => some fallback
  | some (.integer value) => if least ≤ value && value ≤ greatest then some value else none
  | some _ => none

/-- The settings among the keys of a document; others are no matter. -/
def ofEntries? (entries : TomlEntries) : Option GameConfig := do
  let standard : RespawnPoint := default
  let coordinate (key : String) (fallback : Int32) : Option Int32 :=
    Int32.ofInt <$>
      setting? entries key Int32.minValue.toInt Int32.maxValue.toInt fallback.toInt
  let map ← setting? entries "char_respawnMap" 0 65535 standard.map.toNat
  return { respawn := {
    map := .ofNat map.toNat
    x := ← coordinate "char_respawnX" standard.x
    y := ← coordinate "char_respawnY" standard.y } }

/-- The settings that a text describes. -/
def ofToml (text : String) : Except ContentError GameConfig :=
  match Toml.document.ofText? text >>= ofEntries? with
  | some config => .ok config
  | none => .error (.ofText "Failed to parse config TOML")

end CharacterSim.GameConfig
