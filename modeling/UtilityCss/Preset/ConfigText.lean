import UtilityCss.Json.Choice
import UtilityCss.Json.Document
import UtilityCss.Json.Record
import UtilityCss.Preset.Config

/-!
# Configurations as JSON

All fields may be missing. Colors are a map from names to hexadecimal texts, in which the last text of
a name counts. The text is read to its end before the configuration is validated.
-/
namespace UtilityCss

open UtilityCss.Json

/-- Reads colors by name. A repeated name keeps its place and takes the last text. -/
def Palette.Colors.read : Reader Palette.Colors := fun cs =>
  (Json.map "a map of color names to hex strings" string cs).map fun (entries, rest) =>
    (OrderedMap.ofList entries, rest)

def Color.Format.read : Reader Color.Format :=
  choice (Color.Format.all.map fun f => (f.name, f))

def Palette.Factors.read : Reader (Palette.Factors Float32) :=
  record "struct AdjustmentFactors"
    [.of "lighterLightness" [] float32 fun f x => { f with lighterLightness := x },
     .of "lighterSaturation" [] float32 fun f x => { f with lighterSaturation := x },
     .of "darkerLightness" [] float32 fun f x => { f with darkerLightness := x },
     .of "darkerSaturation" [] float32 fun f x => { f with darkerSaturation := x }] default

namespace Config

def read : Reader Config :=
  record "struct Config"
    [.of "sizing" [] float fun c x => { c with sizing := x },
     .of "colors" [] Palette.Colors.read fun c x => { c with colors := x },
     .of "colorFormat" ["colorVariant"] Color.Format.read fun c x => { c with format := x },
     .of "adjustments" [] Palette.Factors.read fun c x => { c with adjustments := x }] {}

/-- Reads and validates a configuration. -/
def ofText (text : String) : Logged PresetError Config := do
  let config ← Logged.ofExcept ((readText read text).mapError .invalidText)
  config.validate
  return config

/-- Reads and validates the configuration in a file, which `contents` looks up. -/
def load (contents : String → Except FileFault String) (path : String) :
    Logged PresetError Config := do
  Logged.debug ("[CONFIG] loading " ++ path)
  let text ← Logged.ofExcept ((contents path).mapError (.unreadable path))
  ofText text

end Config

/-- Reads a text that is a map of colors. -/
def Palette.Colors.ofText (text : String) : Except (Fault Position) Palette.Colors :=
  readText Palette.Colors.read text

end UtilityCss
