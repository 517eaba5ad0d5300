import UtilityCss.Palette.Shade

/-!
# Why no palette is made

Factors and colors come from outside and are checked. Factors that reach a division unchecked are a
fault of their own, which no palette is meant to show.
-/
namespace UtilityCss.Palette

inductive PaletteError where
  | invalidHex (name hex : String)
  | invalidFactors
  | uncheckedFactors (factors : Factors Float32)
  deriving DecidableEq

/-- The four factors by name, each seen to be no integer. -/
def Factors.describe (f : Factors Float32) : String :=
  let item (name : String) (x : Float32) := name ++ ": " ++ Decimal.annotatedFloat32 x
  "AdjustmentFactors \x7b " ++ item "lighter_lightness" f.lighterLightness ++ ", " ++
    item "lighter_saturation" f.lighterSaturation ++ ", " ++
    item "darker_lightness" f.darkerLightness ++ ", " ++
    item "darker_saturation" f.darkerSaturation ++ " \x7d"

def PaletteError.message : PaletteError → String
  | .invalidHex name hex => "color '" ++ name ++ "' has invalid hex value '" ++ hex ++ "'"
  | .invalidFactors => "adjustment factors must be finite and positive"
  | .uncheckedFactors f => "adjustment factors must be finite and positive: " ++ f.describe

/-- Insists on valid factors. -/
def Factors.checked (f : Factors Float32) : Except PaletteError (Factors Float32) :=
  if f.isValid then .ok f else .error (.uncheckedFactors f)

/-- The shade at a position of the ramp, for factors that may divide. -/
def adjustShade (f : Factors Float32) (neutral : Bool) (ordinal : Nat) (base : Color.Hsl Float32) :
    Except PaletteError (Color.Hsl Float32) := do
  let f ← f.checked
  return shade f neutral ordinal base

end UtilityCss.Palette
