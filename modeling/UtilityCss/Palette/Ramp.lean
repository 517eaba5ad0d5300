import UtilityCss.Color.Hex
import UtilityCss.Log
import UtilityCss.OrderedMap
import UtilityCss.Palette.Error
import UtilityCss.Palette.Step

/-!
# Ramps and palettes

A palette gives every color a name for each of its eleven shades. It is one list of names and values,
which is written as a text for a style sheet, as a text of class names, or as a map. Colors keep the
order in which they are given; an error in one color leaves no part of a palette.
-/
namespace UtilityCss.Palette

open UtilityCss.Color

/-- Colors by name, each as a hexadecimal text. -/
abbrev Colors := OrderedMap String String

/-- The shades of one color with the steps that name them. -/
def ramp (factors : Factors Float32) (dark : Bool) (name hex : String) :
    Logged PaletteError (List (Step × Hsl Float32)) := do
  if !factors.isValid then Logged.fail .invalidFactors
  match hexToRgb hex with
  | none => Logged.fail (.invalidHex name hex)
  | some rgb =>
    let base : Hsl Float32 := rgbToHsl rgb
    let neutral := isNeutral base
    Logged.debug ("[PALETTE] " ++ name ++ ": base " ++ hex ++ " hsl=(" ++
      Decimal.tenthsOfFloat32 base.hue ++ ", " ++ Decimal.tenthsOfFloat32 base.saturation ++ ", " ++
      Decimal.tenthsOfFloat32 base.lightness ++ ") neutral=" ++ toString neutral)
    Logged.ofExcept ((Step.walk dark).zipIdx.mapM fun (step, ordinal) => do
      return (step, ← adjustShade factors neutral ordinal base))

/-- What a palette is made of. -/
structure Options where
  colors : Colors := .empty
  dark : Bool := false
  namePrefix : String := ""
  factors : Factors Float32 := default

/-- The name of a shade. -/
def shadeName (color : String) (step : Step) : String := color ++ "-" ++ step.label

/-- All names with the channels of their shades, color after color. -/
def shades (options : Options) : Logged PaletteError (List (String × String)) := do
  let ramps ← Logged.forEach (fun (name, hex) => do
    let steps ← ramp options.factors options.dark name hex
    return steps.map fun (step, hsl) =>
      (options.namePrefix ++ shadeName name step, shadeText hsl)) options.colors.toList
  return ramps.flatten

/-- The form that a palette is given in. -/
inductive OutputMode where
  | classString
  | cssVariables
  | valueAlias
  | reference
  deriving DecidableEq, Repr

instance : Inhabited OutputMode := ⟨.cssVariables⟩

/-- Picks the form from flags: class names, then variables, then values. References are what is left,
so the flag for them changes nothing. -/
def OutputMode.ofFlags (isCssVar isValueAlias _isAliasVar isClassString : Bool) : OutputMode :=
  if isClassString then .classString
  else if isCssVar then .cssVariables
  else if isValueAlias then .valueAlias
  else .reference

def OutputMode.name : OutputMode → String
  | .classString => "class"
  | .cssVariables => "css"
  | .valueAlias => "alias"
  | .reference => "reference"

def OutputMode.ofName? (name : String) : Option OutputMode :=
  [.cssVariables, .classString, .valueAlias, .reference].find? (·.name == name)

/-- A palette as text or as a map from names to values. -/
inductive Output where
  | text (content : String)
  | map (entries : OrderedMap String String)

/-- Declares a shade as a variable. -/
def variableLine (name value : String) : String := "--" ++ name ++ ": " ++ value ++ ";"

/-- Sets a shade by a class name, in which an underscore stands for a space. -/
def classFragment (name value : String) : String :=
  "[--" ++ name ++ "]-[" ++
    String.ofList (value.toList.map fun c => if c == ' ' then '_' else c) ++ "]"

/-- Refers to the variable of a shade. -/
def variableReference (name : String) : String := "var(--" ++ name ++ ")"

/-- Gives names and values a form. -/
def OutputMode.present (mode : OutputMode) (entries : List (String × String)) : Output :=
  match mode with
  | .classString => .text (" ".intercalate (entries.map fun (n, v) => classFragment n v))
  | .cssVariables => .text ("\n".intercalate (entries.map fun (n, v) => variableLine n v))
  | .valueAlias => .map (.ofList entries)
  | .reference => .map (.ofList (entries.map fun (n, _) => (n, variableReference n)))

/-- Makes the palette of all colors. -/
def generate (mode : OutputMode) (options : Options) : Logged PaletteError Output := do
  return mode.present (← shades options)

end UtilityCss.Palette
