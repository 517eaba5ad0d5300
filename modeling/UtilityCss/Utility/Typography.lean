import UtilityCss.Utility.ColorValue
import UtilityCss.Utility.Rule

/-!
# Text, fonts and decorations

The text utility sets a color, an alignment, wrapping, overflow or a size; a named size has a line
height. The font utility sets a weight or a family, the decoration utility a color, a style or a
thickness.
-/
namespace UtilityCss.Utility

/-- Named sizes of fonts, each with its line height. -/
def fontSizes : List (String × String × String) :=
  [("xs", "0.75rem", "calc(1 / 0.75)"), ("sm", "0.875rem", "calc(1.25 / 0.875)"),
   ("base", "1rem", "calc(1.5 / 1)"), ("lg", "1.125rem", "calc(1.75 / 1.125)"),
   ("xl", "1.25rem", "calc(1.75 / 1.25)"), ("2xl", "1.5rem", "calc(2 / 1.5)"),
   ("3xl", "1.875rem", "calc(2.25 / 1.875)"), ("4xl", "2.25rem", "calc(2.5 / 2.25)"),
   ("5xl", "3rem", "1"), ("6xl", "3.75rem", "1"), ("7xl", "4.5rem", "1"), ("8xl", "6rem", "1"),
   ("9xl", "8rem", "1")]

def lineHeights : Aliases :=
  [("none", "1"), ("tight", "1.25"), ("snug", "1.375"), ("normal", "1.5"), ("relaxed", "1.625"),
   ("loose", "2")]

def fontWeights : Aliases :=
  [("thin", "100"), ("extralight", "200"), ("light", "300"), ("normal", "400"), ("medium", "500"),
   ("semibold", "600"), ("bold", "700"), ("extrabold", "800"), ("black", "900")]

def letterSpacing : Aliases :=
  [("tighter", "-0.05em"), ("tight", "-0.025em"), ("normal", "0em"), ("wide", "0.025em"),
   ("wider", "0.05em"), ("widest", "0.1em")]

/-- The line height that the second value gives. -/
def lineHeight? (t : Token) : Option String :=
  if t.secondValue.isEmpty then none
  else some ((lineHeights.lookup t.secondValue).getD t.secondJoined)

def textColor (t : Token) (context : Context) : List Declaration :=
  [⟨"color", colorValue t context⟩]

/-- A size, with the line height that is given or that belongs to a named size. -/
def textSize (t : Token) : List Declaration :=
  match fontSizes.lookup t.joined, lineHeight? t with
  | some (size, _), some height => [⟨"font-size", size⟩, ⟨"line-height", height⟩]
  | some (size, height), none => [⟨"font-size", size⟩, ⟨"line-height", height⟩]
  | none, some height => [⟨"font-size", t.joined⟩, ⟨"line-height", height⟩]
  | none, none => [⟨"font-size", t.joined⟩]

def textRules : List (Rule (Token → Context → List Declaration)) :=
  [⟨"color", isColorToken, textColor⟩,
   ⟨"align", fun t => ["center", "justify", "left", "right", "start", "end"].contains t.value,
    fun t _ => [⟨"text-align", t.value⟩]⟩,
   ⟨"wrap", fun t => ["wrap", "nowrap", "balance", "pretty"].contains t.value,
    fun t _ => [⟨"text-wrap", t.value⟩]⟩,
   ⟨"overflow", fun t => ["ellipsis", "clip"].contains t.value,
    fun t _ => [⟨"text-overflow", t.value⟩]⟩,
   ⟨"size", fun t => Value.isLength t.joined || (fontSizes.lookup t.joined).isSome,
    fun t _ => textSize t⟩]

/-- The declarations of the rule that a token with a value selects, or else of `otherwise`. -/
def bySelectedRule (rules : List (Rule (Token → Context → List Declaration)))
    (otherwise : Token → Context → List Declaration) (t : Token) (context : Context) :
    Option (List Declaration) :=
  if t.value.isEmpty then none else some ((firstMatch rules t).getD otherwise t context)

/-- What no rule accepts is taken for a color. -/
def text : Entry := .compute (bySelectedRule textRules textColor)

/-- A weight by name, by number, or by a name that ends in two zeros. -/
def isFontWeight (t : Token) : Bool :=
  (fontWeights.lookup t.value).isSome || Value.isNumber t.value ||
    ['0', '0'].isSuffixOf t.value.toList

def fontFamily (t : Token) (_ : Context) : List Declaration := [⟨"font-family", t.value⟩]

def fontRules : List (Rule (Token → Context → List Declaration)) :=
  [⟨"weight", isFontWeight,
    fun t _ => [⟨"font-weight", (fontWeights.lookup t.value).getD t.value⟩]⟩,
   ⟨"family", keyedOnly, fontFamily⟩]

/-- What is no weight is a family. -/
def font : Entry := .compute (bySelectedRule fontRules fontFamily)

def tracking : Entry := .property "letterSpacing" (.alias letterSpacing)

/-- A named line height, a number on the spacing scale, or the value with its unit. -/
def leadingValue (t : Token) (context : Context) : Option String :=
  if t.value.isEmpty then none
  else
    match lineHeights.lookup t.value with
    | some height => some height
    | none =>
      if t.unit.isEmpty && Value.isNumber t.value then
        some (Value.scaleSizing t.value "" context.sizing)
      else some t.joined

def leading : Entry := .property "lineHeight" (.computed leadingValue)

def decorationColor (t : Token) (context : Context) : List Declaration :=
  [⟨"text-decoration-color", colorValue t context⟩]

/-- A thickness; numbers are in pixels. -/
def decorationThickness (t : Token) : List Declaration :=
  [⟨"text-decoration-thickness",
    if Value.isNumber t.joined then t.value ++ "px" else t.joined⟩]

def decorationRules : List (Rule (Token → Context → List Declaration)) :=
  [⟨"color", fun t => Color.isColor t.value, decorationColor⟩,
   ⟨"style", fun t => ["solid", "dashed", "double", "dotted", "wavy"].contains t.value,
    fun t _ => [⟨"text-decoration-style", t.value⟩]⟩,
   ⟨"length", fun t => ["auto", "from-font"].contains t.value || Value.isNumber t.joined ||
      Value.isLength t.joined,
    fun t _ => decorationThickness t⟩]

/-- What no rule accepts is taken for a color. -/
def decoration : Entry := .compute (bySelectedRule decorationRules decorationColor)

def underlineOffset : Entry := .property "textUnderlineOffset" (.template "\x7b0\x7dpx")

/-- An indent on the spacing scale. -/
def indent : Entry :=
  .property "textIndent" (.computed fun t context =>
    if t.value.isEmpty then none else some (Value.scaleSizing t.value t.unit context.sizing))

end UtilityCss.Utility
