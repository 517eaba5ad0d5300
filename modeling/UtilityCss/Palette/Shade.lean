import UtilityCss.Color.Conversion
import UtilityCss.Decimal.Text

/-!
# Shades of a base color

A shade is the base color with another lightness and saturation. Lighter shades approach a lightness
of 98 and lose saturation down to 10, darker ones lose lightness in proportion and approach a
saturation of 100. Neutral colors keep their saturation, and no shade changes the hue. Four factors
say how many steps would use up the whole way. The formula is written for any scalar; in the output
its rounding is that of single precision.
-/
namespace UtilityCss.Palette

open UtilityCss.Color

/-- The divisors of the distance from the base color, in steps. -/
structure Factors (α : Type) where
  lighterLightness : α
  lighterSaturation : α
  darkerLightness : α
  darkerSaturation : α
  deriving DecidableEq, Repr

def Factors.toList {α : Type} (f : Factors α) : List α :=
  [f.lighterLightness, f.lighterSaturation, f.darkerLightness, f.darkerSaturation]

instance : Inhabited (Factors Float32) := ⟨⟨4.5, 10.0, 6.5, 7.0⟩⟩

/-- Every factor is finite and positive, so that it may divide. -/
def Factors.isValid (f : Factors Float32) : Bool :=
  f.toList.all fun x => x.isFinite && decide (0 < x)

/-- The position of the base color. -/
def baseOrdinal : Nat := 5

section
variable {α : Type} [Add α] [Sub α] [Mul α] [Div α] [∀ n, OfNat α n] [LT α] [DecidableLT α] [BEq α]
  [NatCast α]

/-- A color with little saturation is neutral, and so are all its shades. -/
def isNeutral (base : Hsl α) : Bool := decide (base.saturation < 10)

/-- The lightness at a position of the ramp. -/
def shadeLightness (f : Factors α) (ordinal : Nat) (lightness : α) : α :=
  if ordinal < baseOrdinal then
    let lift := ((baseOrdinal - ordinal : Nat) : α) / f.lighterLightness
    lesser (lightness + (98 - lightness) * lift) 98
  else if baseOrdinal < ordinal then
    lightness * (1 - ((ordinal - baseOrdinal : Nat) : α) / f.darkerLightness)
  else lightness

/-- The saturation at a position of the ramp of a color that is not neutral. -/
def shadeSaturation (f : Factors α) (ordinal : Nat) (saturation : α) : α :=
  if ordinal < baseOrdinal then
    let fade := ((baseOrdinal - ordinal : Nat) : α) / f.lighterSaturation
    greater (saturation - saturation * fade) 10
  else if baseOrdinal < ordinal then
    let deepen := ((ordinal - baseOrdinal : Nat) : α) / f.darkerSaturation
    lesser (saturation + (100 - saturation) * deepen) 100
  else saturation

/-- The shade at a position of the ramp. -/
def shade (f : Factors α) (neutral : Bool) (ordinal : Nat) (base : Hsl α) : Hsl α :=
  { hue := base.hue
    saturation := if neutral then base.saturation else shadeSaturation f ordinal base.saturation
    lightness := shadeLightness f ordinal base.lightness }

/-- The base color stands in the middle of its ramp. -/
theorem shade_base (f : Factors α) (neutral : Bool) (base : Hsl α) :
    shade f neutral baseOrdinal base = base := by
  cases neutral <;> simp [shade, shadeSaturation, shadeLightness]

end

/-- The channels of a shade, as palettes list them. -/
def shadeText (c : Hsl Float32) : String := (hslToRgb c).components

end UtilityCss.Palette
