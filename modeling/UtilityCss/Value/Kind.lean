import UtilityCss.Decimal.Reading
import UtilityCss.Value.Token

/-!
# Kinds of values

A whole text is a number, a percentage, a length or a time, or none of these. Numbers are written
without a power of ten, and the text of a number may have comments behind it; its value can then not
be read. A unit is compared without regard to ASCII case. Ranges of values are not checked.
-/
namespace UtilityCss.Value

open UtilityCss.Text

/-- The units of lengths: absolute, relative to fonts, to the viewport and to containers. -/
def lengthUnits : List String :=
  ["px", "cm", "mm", "q", "in", "pt", "pc", "em", "rem", "ex", "rex", "ch", "rch", "lh", "rlh",
   "vw", "vh", "vmin", "vmax", "svw", "svh", "lvw", "lvh", "dvw", "dvh", "cqw", "cqh", "cqi",
   "cqb", "cqmin", "cqmax"]

def timeUnits : List String := ["ms", "s"]

/-- A dimension with one of the units. -/
def Token.hasUnit (units : List String) : Token → Bool
  | .dimension unit => units.contains (String.ofList (lower unit))
  | _ => false

def isNumber (text : String) : Bool :=
  !text.toList.any (fun c => c == 'e' || c == 'E') && isSingle (· == .number) text.toList

def isPercentage (text : String) : Bool := isSingle (· == .percentage) text.toList

def isLength (text : String) : Bool := isSingle (Token.hasUnit lengthUnits) text.toList

def isTime (text : String) : Bool := isSingle (Token.hasUnit timeUnits) text.toList

/-- Why a value cannot be read. -/
inductive ValueError where
  | unexpectedToken
  deriving DecidableEq, Repr

def ValueError.message : ValueError → String
  | .unexpectedToken => "unexpected token"

/-- The value of a plain number. -/
def numberValue (text : String) : Except ValueError Float :=
  match isNumber text, Decimal.float? text with
  | true, some x => .ok x
  | _, _ => .error .unexpectedToken

example : (["4", "-1", "0.5", "4/**/"].all isNumber &&
    ["", "4px", "50%", "1e3", " 4", "4 4", "1."].all (!isNumber ·)) = true := by cbv

example : (["12px", "-2em", "3PX", "1\\70 x"].all isLength &&
    ["12", "50%", "150ms"].all (!isLength ·)) = true := by cbv

example : isTime "150MS" = true ∧ isTime "10px" = false := by cbv

end UtilityCss.Value
