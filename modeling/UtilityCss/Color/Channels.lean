import UtilityCss.Decimal.Digits

/-!
# Color triples

An opaque color is held as three bytes, as three channels between zero and one, or as hue, saturation
and lightness: the hue in degrees, the other two in percent. None of them holds an alpha channel.
-/
namespace UtilityCss.Color

structure Rgb where
  red : UInt8
  green : UInt8
  blue : UInt8
  deriving DecidableEq, Repr

/-- The three bytes in decimal, with a space between them. -/
def Rgb.components (c : Rgb) : String :=
  let decimal (b : UInt8) := String.ofList (Decimal.digits b.toNat)
  decimal c.red ++ " " ++ decimal c.green ++ " " ++ decimal c.blue

/-- Red, green and blue between zero and one. -/
structure Channels (α : Type) where
  red : α
  green : α
  blue : α
  deriving DecidableEq, Repr

structure Hsl (α : Type) where
  hue : α
  saturation : α
  lightness : α
  deriving DecidableEq, Repr

end UtilityCss.Color
