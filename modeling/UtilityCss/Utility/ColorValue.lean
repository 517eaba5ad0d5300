import UtilityCss.Color.Literal
import UtilityCss.Utility.Entry

/-!
# Colors, line widths and layers in utilities

What several utilities share: a token whose value is a color, the color with its opacity, the width of
a line, and the stack of all shadow layers.
-/
namespace UtilityCss.Utility

def isColorToken (t : Token) : Bool := Color.isColorOrKeyword t.value

/-- The value as a color, with the second value as its opacity. -/
def colorValue (t : Token) (context : Context) : String :=
  Color.composeAlpha t.value t.secondValue t.secondUnit context.format

/-- The width of a line: one pixel without a value, and numbers in pixels. -/
def lineWidth (t : Token) : String :=
  if t.value.isEmpty then "1px"
  else if Value.isNumber t.joined then t.value ++ "px"
  else t.joined

/-- All shadow layers in the order in which they are painted. -/
def boxShadowStack : String :=
  "var(--tui-inset-shadow), var(--tui-inset-ring-shadow), " ++
    "var(--tui-ring-offset-shadow), var(--tui-shadow), var(--tui-ring-shadow)"

/-- The declaration that composes all shadow layers. -/
def boxShadow : Declaration := ⟨"box-shadow", boxShadowStack⟩

end UtilityCss.Utility
