import UtilityCss.Utility.ColorValue

/-!
# Shadows and filters

A shadow has a layer of its own, or an inner one, and is composed with all other layers. Filters apply
a function to their value; each comes in a form for the box and one for what lies behind it.
-/
namespace UtilityCss.Utility

/-- Stands for an absent size of shadows and blurs. -/
def defaultEffectSize : String := "sm"

/-- Outer shadows, with a place for the name of the layer. -/
def shadowSizes : Aliases :=
  [("2xs", "0 1px var(--tui-\x7b0\x7d-color, rgb(0 0 0 / 0.05))"),
   ("xs", "0 1px 2px 0 var(--tui-\x7b0\x7d-color, rgb(0 0 0 / 0.05))"),
   ("sm", "0 1px 3px 0 var(--tui-\x7b0\x7d-color, rgb(0 0 0 / 0.1)), " ++
      "0 1px 2px -1px var(--tui-\x7b0\x7d-color, rgb(0 0 0 / 0.1))"),
   ("md", "0 4px 6px -1px var(--tui-\x7b0\x7d-color, rgb(0 0 0 / 0.1)), " ++
      "0 2px 4px -2px var(--tui-\x7b0\x7d-color, rgb(0 0 0 / 0.1))"),
   ("lg", "0 10px 15px -3px var(--tui-\x7b0\x7d-color, rgb(0 0 0 / 0.1)), " ++
      "0 4px 6px -4px var(--tui-\x7b0\x7d-color, rgb(0 0 0 / 0.1))"),
   ("xl", "0 20px 25px -5px var(--tui-\x7b0\x7d-color, rgb(0 0 0 / 0.1)), " ++
      "0 8px 10px -6px var(--tui-\x7b0\x7d-color, rgb(0 0 0 / 0.1))"),
   ("2xl", "0 25px 50px -12px var(--tui-\x7b0\x7d-color, rgb(0 0 0 / 0.25))"),
   ("none", "0 0 #0000")]

def insetShadowSizes : Aliases :=
  [("2xs", "inset 0 1px var(--tui-inset-shadow-color, rgb(0 0 0 / 0.05))"),
   ("xs", "inset 0 1px 1px var(--tui-inset-shadow-color, rgb(0 0 0 / 0.05))"),
   ("sm", "inset 0 2px 4px var(--tui-inset-shadow-color, rgb(0 0 0 / 0.05))"),
   ("none", "0 0 #0000")]

/-- A named shadow on its layer. -/
def shadowPreset? (size : String) (inset : Bool) : Option String :=
  if inset then insetShadowSizes.lookup size
  else (shadowSizes.lookup size).map fun pattern => Value.substitute pattern "shadow"

/-- A color sets the color of the layer; anything else sets the layer and composes all layers. -/
def shadowDeclarations (t : Token) (context : Context) : List Declaration :=
  let inset := t.key == "inset"
  let layer := if inset then "inset-shadow" else "shadow"
  if isColorToken t then [⟨"--tui-" ++ layer ++ "-color", colorValue t context⟩]
  else
    let size := if t.value.isEmpty then defaultEffectSize else t.value
    [⟨"--tui-" ++ layer, (shadowPreset? size inset).getD t.joined⟩, boxShadow]

def shadow : Entry := .compute fun t context => some (shadowDeclarations t context)

def blurSizes : Aliases :=
  [("xs", "4px"), ("sm", "8px"), ("md", "12px"), ("lg", "16px"), ("xl", "24px"), ("2xl", "40px"),
   ("3xl", "64px")]

def dropShadowSizes : Aliases :=
  [("xs", "0 1px 1px var(--drop-shadow-color, rgb(0 0 0 / 0.05))"),
   ("sm", "0 1px 2px var(--drop-shadow-color, rgb(0 0 0 / 0.15))"),
   ("md", "0 3px 3px var(--drop-shadow-color, rgb(0 0 0 / 0.12))"),
   ("lg", "0 4px 4px var(--drop-shadow-color, rgb(0 0 0 / 0.15))"),
   ("xl", "0 9px 7px var(--drop-shadow-color, rgb(0 0 0 / 0.1))"),
   ("2xl", "0 25px 25px var(--drop-shadow-color, rgb(0 0 0 / 0.15))")]

/-- A named effect, or the value with its unit. -/
def effect (sizes : Aliases) (t : Token) : String :=
  let size := if t.joined.isEmpty then defaultEffectSize else t.joined
  (sizes.lookup size).getD size

/-- Blurs the box or what lies behind it. -/
def blur (property : String) : Entry :=
  .property property (.computed fun t _ => some ("blur(" ++ effect blurSizes t ++ ")"))

/-- A color sets the color of the shadow, anything else the shadow. -/
def dropShadowDeclarations (t : Token) (context : Context) : List Declaration :=
  if t.key == "color" || isColorToken t then [⟨"--drop-shadow-color", colorValue t context⟩]
  else [⟨"filter", "drop-shadow(" ++ effect dropShadowSizes t ++ ")"⟩]

def dropShadow : Entry := .compute fun t context => some (dropShadowDeclarations t context)

/-- The filters that come in both forms. -/
def filterFunctions : List FilterFunction :=
  [⟨"brightness", "%", false⟩, ⟨"contrast", "%", false⟩, ⟨"grayscale", "%", true⟩,
   ⟨"hue-rotate", "deg", false⟩, ⟨"invert", "%", true⟩, ⟨"sepia", "%", true⟩,
   ⟨"saturate", "%", false⟩]

/-- A filter of the box, and the same of what lies behind it. -/
def filterEntries (f : FilterFunction) : List (String × Entry) :=
  [(f.name, .property "filter" (.filter f)),
   ("backdrop-" ++ f.name, .property "backdropFilter" (.filter f))]

def backdropOpacity : Entry := .property "backdropFilter" (.filter ⟨"opacity", "%", false⟩)

end UtilityCss.Utility
