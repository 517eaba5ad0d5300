import UtilityCss.Color.Alpha
import UtilityCss.Value.Scale

/-!
# Utility tokens

A token is one use of a utility, taken apart: in `bg-red-500/50` the value `red-500` and the second
value `50`, in `px-4` the key `x` and the value `4`. A part that is absent is empty. The tokenizer
itself is not modelled.
-/
namespace UtilityCss.Utility

structure Token where
  key : String := ""
  value : String := ""
  unit : String := ""
  secondValue : String := ""
  secondUnit : String := ""
  deriving DecidableEq, Repr

/-- The value with its unit. -/
def Token.joined (t : Token) : String := t.value ++ t.unit

/-- The second value with its unit. -/
def Token.secondJoined (t : Token) : String := t.secondValue ++ t.secondUnit

/-- What all utilities know: the length of a spacing step, and the format whose colors take an
opacity. -/
structure Context where
  sizing : Float := Value.defaultSizing
  format : Color.Format := default

end UtilityCss.Utility
