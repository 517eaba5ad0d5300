import UtilityCss.Preset.Config
import UtilityCss.Preset.NamedValue
import UtilityCss.Preset.RootBlock
import UtilityCss.Preset.StaticClass
import UtilityCss.Utility.Builtin

/-!
# Presets

A preset is made once from a configuration: the built-in utilities, the values that names stand for,
among them every shade of every color, the static classes, and the variables of the root block. A token
whose value is a name is resolved with what the name stands for.
-/
namespace UtilityCss

open UtilityCss.Utility UtilityCss.Preset

structure Preset where
  config : Config
  context : Context
  table : PropertyTable
  values : ValueTable
  classes : ClassTable
  rootVariables : List (String × String)

namespace Preset

/-- Makes a preset. -/
def create (config : Config) : Logged PresetError Preset := do
  config.validate
  let colors ← (Palette.library config.colors config.format config.adjustments).mapError .palette
  let values := ValueTable.withColors colors
  let table ← Logged.report builtinMerge.2 builtinTable
  let classes := ClassTable.builtin
  Logged.debug ("[PRESET] " ++ toString table.size ++ " utilities, " ++ toString values.size ++
    " values, " ++ toString classes.size ++ " classes, sizing " ++ Decimal.ofFloat config.sizing ++
    ", " ++ config.format.name ++ " colors")
  return ⟨config, ⟨config.sizing, config.format⟩, table, values, classes, builtinVariables⟩

/-- Resolves a token of a utility. -/
def resolve (p : Preset) (utility : String) (t : Token) : Option Resolved :=
  match p.values.get? utility t.value with
  | some value => p.table.resolve utility { t with value := value } p.context
  | none => p.table.resolve utility t p.context

/-- Writes the root block of the preset. -/
def toRootCss (p : Preset) (extra : Option String) : String := rootCss p.rootVariables extra

end Preset

end UtilityCss
