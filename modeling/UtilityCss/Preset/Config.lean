import UtilityCss.Log
import UtilityCss.Palette.Library
import UtilityCss.Preset.Error
import UtilityCss.Value.Scale

/-!
# Configurations

A configuration sets the length of a spacing step, further colors, the format of colors and the
factors of shades. It is valid when the numbers among these are finite and positive; whether its colors
are colors is found out when a palette is made of them.
-/
namespace UtilityCss

structure Config where
  sizing : Float := Value.defaultSizing
  colors : Palette.Colors := .empty
  format : Color.Format := default
  adjustments : Palette.Factors Float32 := default

namespace Config

/-- The sizing is finite and positive. -/
def sizingIsValid (config : Config) : Bool :=
  config.sizing.isFinite && !decide (config.sizing ≤ 0.0)

/-- The names of built-in colors among the configured ones. -/
def replacedNames (config : Config) : List String :=
  config.colors.keys.filter fun name => (Palette.builtinColors.map Prod.fst).contains name

/-- Insists on valid numbers, and warns of colors that replace a built-in one. -/
def validate (config : Config) : Logged PresetError Unit := do
  if !config.sizingIsValid then Logged.fail (.invalidSizing config.sizing)
  if !config.adjustments.isValid then Logged.fail .invalidAdjustments
  let _ ← Logged.forEach (fun name =>
    Logged.warn ("[CONFIG] color '" ++ name ++ "' replaces the built-in '" ++ name ++ "' ramp"))
    config.replacedNames
  return ()

end Config

end UtilityCss
