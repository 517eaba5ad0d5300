import UtilityCss.Decimal.Text
import UtilityCss.Value.Kind

/-!
# The spacing scale

A plain number on the scale is that many steps; the length of a step is given in `rem`. A text that
is no plain number stands for itself.
-/
namespace UtilityCss.Value

/-- The length of one step unless another is configured. -/
def defaultSizing : Float := 0.25

/-- The plain decimal of a number, in which zero has no sign. -/
def formatNumber (x : Float) : String :=
  if x == 0.0 then "0" else Decimal.ofFloat x

/-- Scales a plain number, except for a zero without unit, which needs none. -/
def scaleSizing (value unit : String) (sizing : Float) : String :=
  if value == "0" && unit.isEmpty then "0"
  else
    match numberValue (value ++ unit) with
    | .ok x => formatNumber (sizing * x) ++ "rem"
    | .error _ => value ++ unit

end UtilityCss.Value
