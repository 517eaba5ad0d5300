/-!
# Binary floating-point patterns as exact numbers

A pattern of an interchange format is taken apart into a sign, a natural significand and a power of
two, so that digits can be chosen and remainders taken in exact arithmetic. Both standard widths are
values of one record. Nothing is claimed here about how the arithmetic of `Float` rounds.
-/
namespace UtilityCss.Decimal

/-- A power of two. -/
def twoTo (n : Nat) : Nat := Nat.pow 2 n

/-- The widths of the two fields behind the sign bit. -/
structure Layout where
  fractionBits : Nat
  exponentBits : Nat
  deriving DecidableEq, Repr

def Layout.single : Layout := ⟨23, 8⟩

def Layout.double : Layout := ⟨52, 11⟩

/-- The power of two that the last bit of the smallest numbers stands for. -/
def Layout.leastExponent (l : Layout) : Int :=
  2 - (twoTo (l.exponentBits - 1) : Int) - l.fractionBits

/-- What a pattern stands for: a finite one is `significand * 2 ^ exponent` with its sign. -/
inductive Binary where
  | nan
  | infinite (negative : Bool)
  | finite (negative : Bool) (significand : Nat) (exponent : Int)
  deriving DecidableEq, Repr

/-- Reads the three fields of a pattern. -/
def Layout.decode (l : Layout) (bits : Nat) : Binary :=
  let fraction := bits % twoTo l.fractionBits
  let biased := bits / twoTo l.fractionBits % twoTo l.exponentBits
  let negative := bits / twoTo (l.fractionBits + l.exponentBits) % 2 == 1
  if biased + 1 = twoTo l.exponentBits then
    if fraction = 0 then .infinite negative else .nan
  else if biased = 0 then .finite negative fraction l.leastExponent
  else .finite negative (fraction + twoTo l.fractionBits) (l.leastExponent + (biased - 1 : Nat))

def Binary.ofFloat (x : Float) : Binary := Layout.double.decode x.toBits.toNat

def Binary.ofFloat32 (x : Float32) : Binary := Layout.single.decode x.toBits.toNat

/-- The pattern of a finite number that the layout holds exactly. -/
def Layout.encode (l : Layout) (negative : Bool) (significand : Nat) (exponent : Int) : Nat :=
  let sign := if negative then twoTo (l.fractionBits + l.exponentBits) else 0
  if significand = 0 then sign
  else
    let last := max l.leastExponent (exponent + significand.log2 - l.fractionBits)
    let m := if exponent ≤ last then significand >>> (last - exponent).toNat
      else significand <<< (exponent - last).toNat
    if m < twoTo l.fractionBits then sign + m
    else sign + (m - twoTo l.fractionBits) +
      twoTo l.fractionBits * ((last - l.leastExponent).toNat + 1)

/-- The exact remainder of a division that truncates toward zero, with the sign of the dividend. It is
again a number of the layout, because it is a multiple of the smaller last bit and below the divisor. -/
def remainder (x y : Float32) : Float32 :=
  match Binary.ofFloat32 x, Binary.ofFloat32 y with
  | .finite negative m e, .finite _ n f =>
    if n = 0 then 0.0 / 0.0
    else
      let g := min e f
      let r := m <<< (e - g).toNat % n <<< (f - g).toNat
      Float32.ofBits (UInt32.ofNat (Layout.single.encode negative r g))
  | .finite .., .infinite _ => x
  | _, _ => 0.0 / 0.0

example : Layout.single.leastExponent = -149 ∧ Layout.double.leastExponent = -1074 := by decide

example : Layout.single.decode (Layout.single.encode true 5 (-3)) =
    .finite true (5 * twoTo 21) (-24) := by decide

end UtilityCss.Decimal
