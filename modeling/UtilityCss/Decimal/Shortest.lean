import UtilityCss.Decimal.Binary
import UtilityCss.Decimal.Digits

/-!
# The shortest decimal that reads back

For a positive binary number, the decimal with the fewest digits inside the interval of numbers that
round to it; of several of that length the nearest, and of two at one distance the one that the written
form asks for. The interval holds its ends when the significand is even. The search compares exact
quotients of natural numbers and uses no floating-point arithmetic.
-/
namespace UtilityCss.Decimal

/-- The number `coefficient * 10 ^ exponent`. -/
structure Scientific where
  coefficient : Nat
  exponent : Int
  deriving DecidableEq, Repr

/-- Which of two decimals at one distance is taken. -/
inductive Tie where
  | larger
  | even
  deriving DecidableEq, Repr

/-- The smaller of two neighbouring coefficients is taken. -/
def Tie.takesSmaller (tie : Tie) (smaller : Nat) : Bool :=
  match tie with
  | .larger => false
  | .even => smaller % 2 == 0

/-- The numbers that round to one binary number, over a common denominator. -/
structure Rounding where
  low : Nat
  value : Nat
  high : Nat
  denominator : Nat
  closed : Bool
  deriving Repr

/-- The interval of `significand * 2 ^ exponent`: it reaches half a unit of the last bit to both
sides, but only a quarter below the first number of a binade. -/
def Layout.rounding (l : Layout) (significand : Nat) (exponent : Int) : Rounding :=
  let narrow := significand = twoTo l.fractionBits ∧ l.leastExponent < exponent
  let up := twoTo (exponent - 2).toNat
  { low := (4 * significand - if narrow then 1 else 2) * up
    value := 4 * significand * up
    high := (4 * significand + 2) * up
    denominator := twoTo (2 - exponent).toNat
    closed := significand % 2 == 0 }

/-- The exponent of the least power of ten above `n / d`, for positive `n` and `d`. -/
def magnitude (n d : Nat) : Int :=
  if d ≤ n then length (n / d) else 1 - (length ((d + n - 1) / n - 1) : Int)

/-- The multiple `c` of `10 ^ e` is one of the numbers that round to the value. -/
def Rounding.holds (r : Rounding) (c : Nat) (e : Int) : Bool :=
  let x := c * tenTo e.toNat * r.denominator
  let down := tenTo (-e).toNat
  if r.closed then decide (r.low * down ≤ x) && decide (x ≤ r.high * down)
  else decide (r.low * down < x) && decide (x < r.high * down)

/-- The multiple of `10 ^ e` next to the value that rounds to it, if one of its two neighbours does. -/
def Rounding.onGrid (r : Rounding) (tie : Tie) (e : Int) : Option Nat :=
  let unit := r.denominator * tenTo e.toNat
  let scaled := r.value * tenTo (-e).toNat
  let c := scaled / unit
  match r.holds c e, r.holds (c + 1) e with
  | true, true =>
    let twice := 2 * (scaled % unit)
    if twice < unit ∨ (twice = unit ∧ tie.takesSmaller c) then some c else some (c + 1)
  | true, false => some c
  | false, true => some (c + 1)
  | false, false => none

/-- Drops the zeros at the end of a coefficient; `steps` bounds their number. -/
def Scientific.stripZeros : Nat → Scientific → Scientific
  | 0, s => s
  | steps + 1, s =>
    if s.coefficient ≠ 0 ∧ s.coefficient % 10 = 0 then
      stripZeros steps ⟨s.coefficient / 10, s.exponent + 1⟩
    else s

/-- The first grid with a hit, from the coarsest on; `steps` bounds the number of grids. -/
def Rounding.search (r : Rounding) (tie : Tie) : Nat → Int → Scientific
  | 0, e => ⟨r.value * tenTo (-e).toNat / (r.denominator * tenTo e.toNat), e⟩
  | steps + 1, e =>
    match r.onGrid tie e with
    | some c => ⟨c, e⟩
    | none => search r tie steps (e - 1)

/-- The shortest decimal of the positive number `significand * 2 ^ exponent`. Seventeen digits always
tell two doubles apart, so the search ends on one of its grids. -/
def Layout.shortest (l : Layout) (tie : Tie) (significand : Nat) (exponent : Int) : Scientific :=
  let r := l.rounding significand exponent
  (r.search tie 17 (magnitude r.value r.denominator - 1)).stripZeros 18

example : Layout.double.shortest .larger 1 (-1074) = ⟨5, -324⟩ := by decide +kernel

example : Layout.single.shortest .larger 13421773 (-27) = ⟨1, -1⟩ := by decide +kernel

example : Layout.double.shortest .larger (twoTo 52 + 1) (-2) = ⟨11258999068426243, -1⟩ ∧
    Layout.double.shortest .even (twoTo 52 + 1) (-2) = ⟨11258999068426242, -1⟩ := by decide +kernel

end UtilityCss.Decimal
