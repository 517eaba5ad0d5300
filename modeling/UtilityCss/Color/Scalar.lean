import UtilityCss.Decimal.Binary

/-!
# The numbers that colors are computed in

Color formulas are written once for any ordered numbers with a truncating remainder and a clamped
conversion to bytes. Single-precision numbers give the written output, rationals the exact laws of
the same formulas. That the two agree is not claimed.
-/
namespace UtilityCss.Color

/-- What a color formula needs besides the four operations and the order. -/
class Scalar (α : Type) where
  /-- The remainder of a division that truncates toward zero, with the sign of the dividend. -/
  remainder : α → α → α
  /-- The integer part, held to the range of a byte. -/
  toByte : α → UInt8
  /-- The value of a byte, exactly. -/
  ofByte : UInt8 → α

instance : Scalar Float32 where
  remainder := Decimal.remainder
  toByte := Float32.toUInt8
  ofByte := UInt8.toFloat32

instance natCastFloat32 : NatCast Float32 := ⟨Float32.ofNat⟩

/-- The integer part of a rational, toward zero. -/
def truncate (q : Rat) : Int := q.num.tdiv q.den

instance : Scalar Rat where
  remainder x y := x - y * (truncate (x / y) : Rat)
  toByte x := UInt8.ofNat (min 255 x.floor.toNat)
  ofByte b := (b.toNat : Rat)

section
variable {α : Type} [LT α] [DecidableLT α]

/-- Holds a number to a range; what cannot be compared with the range stays as it is. -/
def clamp (low high x : α) : α :=
  if x < low then low else if high < x then high else x

variable [BEq α]

/-- The greater of two numbers; where one is no number, the other. -/
def greater (x y : α) : α := if x < y then y else if x == x then x else y

/-- The lesser of two numbers; where one is no number, the other. -/
def lesser (x y : α) : α := if y < x then y else if x == x then x else y

end

example : Scalar.remainder (-7 : Rat) 4 = -3 ∧ Scalar.toByte (300 : Rat) = 255 ∧
    Scalar.toByte (-1 : Rat) = 0 := by decide +kernel

end UtilityCss.Color
