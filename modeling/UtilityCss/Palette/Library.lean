import UtilityCss.Color.Format
import UtilityCss.Palette.Ramp

/-!
# The color library

The library holds every shade of the built-in colors and of the configured ones, written in the
configured format. A configured color with a built-in name takes its place.
-/
namespace UtilityCss.Palette

open UtilityCss.Color

/-- The built-in colors. -/
def builtinColors : List (String × String) :=
  [("red", "#ef4444"), ("orange", "#f97316"), ("amber", "#f59e0b"), ("yellow", "#eab308"),
   ("lime", "#84cc16"), ("green", "#22c55e"), ("emerald", "#10b981"), ("teal", "#14b8a6"),
   ("cyan", "#06b6d4"), ("sky", "#0ea5e9"), ("blue", "#3b82f6"), ("indigo", "#6366f1"),
   ("violet", "#8b5cf6"), ("purple", "#a855f7"), ("fuchsia", "#d946ef"), ("pink", "#ec4899"),
   ("rose", "#f43f5e"), ("slate", "#64748b"), ("gray", "#6b7280"), ("zinc", "#71717a"),
   ("neutral", "#737373"), ("stone", "#78716c")]

/-- The built-in colors with the configured ones. -/
def allColors (colors : Colors) : Colors := (OrderedMap.ofList builtinColors).merged colors

/-- Every shade by its name, written in the format. -/
def library (colors : Colors) (format : Format) (factors : Factors Float32) :
    Logged PaletteError (OrderedMap String String) := do
  let all := allColors colors
  Logged.debug ("[PALETTE] building " ++ format.name ++ " library for " ++ toString all.size ++
    " colors")
  let ramps ← Logged.forEach (fun (name, hex) => do
    let steps ← ramp factors false name hex
    return steps.map fun (step, hsl) =>
      (shadeName name step, format.wrap (hslToRgb hsl))) all.toList
  return .ofList ramps.flatten

example : (allColors .empty).size = 22 := by decide +kernel

end UtilityCss.Palette
