import UtilityCss.Utility.ColorValue
import UtilityCss.Utility.Rule

/-!
# Borders, outlines, rings and corners

A border or an outline sets a color, a style, or a width together with a style. A ring is a shadow of
the width of a line, on its own layer. Corners are rounded by named sizes.
-/
namespace UtilityCss.Utility

def radiusSizes : Aliases :=
  [("xs", "0.125rem"), ("sm", "0.25rem"), ("md", "0.375rem"), ("lg", "0.5rem"), ("xl", "0.75rem"),
   ("2xl", "1rem"), ("3xl", "1.5rem"), ("4xl", "2rem")]

def radiusCorners : List (String × List String) :=
  [("t", ["borderTopLeftRadius", "borderTopRightRadius"]),
   ("r", ["borderTopRightRadius", "borderBottomRightRadius"]),
   ("b", ["borderBottomRightRadius", "borderBottomLeftRadius"]),
   ("l", ["borderTopLeftRadius", "borderBottomLeftRadius"]),
   ("tl", ["borderTopLeftRadius"]), ("tr", ["borderTopRightRadius"]),
   ("br", ["borderBottomRightRadius"]), ("bl", ["borderBottomLeftRadius"])]

def radius : Entry := .declare (.directional ["borderRadius"] radiusCorners) (.alias radiusSizes)

/-- A line around a box: its name, its styles, and the width properties of single sides. -/
structure LineFamily where
  name : String
  styles : List String
  sides : List (String × String)

def borderLine : LineFamily where
  name := "border"
  styles := ["solid", "dashed", "double", "hidden", "none", "dotted"]
  sides := [("x", "border-inline-width"), ("y", "border-block-width"), ("t", "border-top-width"),
    ("r", "border-right-width"), ("b", "border-bottom-width"), ("l", "border-left-width")]

def outlineLine : LineFamily where
  name := "outline"
  styles := ["solid", "dashed", "double", "none", "dotted"]
  sides := []

/-- What a token can set besides a width. -/
inductive LinePart where
  | color
  | style
  deriving DecidableEq, Repr

def LineFamily.rules (family : LineFamily) : List (Rule LinePart) :=
  [⟨"color", isColorToken, .color⟩, ⟨"style", fun t => family.styles.contains t.value, .style⟩]

/-- The property for the width of the side that the key names, or of all sides. -/
def LineFamily.widthProperty (family : LineFamily) (t : Token) : String :=
  (family.sides.lookup t.key).getD (family.name ++ "-width")

/-- A color, a style, or a width with a style; the style is the second value, or else solid. -/
def LineFamily.declarations (family : LineFamily) (t : Token) (context : Context) :
    List Declaration :=
  match firstMatch family.rules t with
  | some .color => [⟨family.name ++ "-color", colorValue t context⟩]
  | some .style => [⟨family.name ++ "-style", t.value⟩]
  | none =>
    [⟨family.name ++ "-style", if t.secondValue.isEmpty then "solid" else t.secondValue⟩,
     ⟨family.widthProperty t, lineWidth t⟩]

def border : Entry := .compute fun t context => some (borderLine.declarations t context)

def outline : Entry := .compute fun t context => some (outlineLine.declarations t context)

/-- A ring has a layer for the outside and one for the inside. -/
def ringDeclarations (t : Token) (context : Context) : List Declaration :=
  let inset := t.key == "inset"
  let layer := if inset then "inset-ring-shadow" else "ring-shadow"
  if isColorToken t then [⟨"--tui-" ++ layer ++ "-color", colorValue t context⟩]
  else
    [⟨"--tui-" ++ layer, (if inset then "inset " else "") ++ "0 0 0 calc(" ++ lineWidth t ++
        " + var(--tui-ring-offset-width, 2px)) var(--tui-" ++ layer ++ "-color, currentColor)"⟩,
     boxShadow]

def ring : Entry := .compute fun t context => some (ringDeclarations t context)

/-- The gap between a box and its ring. -/
def ringOffsetDeclarations (t : Token) (context : Context) : List Declaration :=
  if isColorToken t then [⟨"--tui-ring-offset-color", colorValue t context⟩]
  else
    [⟨"--tui-ring-offset-width", lineWidth t⟩,
     ⟨"--tui-ring-offset-shadow",
      "0 0 0 var(--tui-ring-offset-width) var(--tui-ring-offset-color)"⟩]

def ringOffset : Entry := .compute fun t context => some (ringOffsetDeclarations t context)

end UtilityCss.Utility
