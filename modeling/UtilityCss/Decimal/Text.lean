import UtilityCss.Decimal.Shortest

/-!
# Written decimals

The three written forms of a binary number: plain (the shortest decimal, never with an exponent),
annotated (the shortest decimal with a point or an exponent, so that it is seen to be no integer) and
with one decimal place (the exact value, a half going to the even digit). The sign of zero is
written. Nothing is claimed about other numbers of places.
-/
namespace UtilityCss.Decimal

open UtilityCss.Text

/-- Writes `coefficient * 10 ^ exponent` with a point where needed and no exponent. -/
def Scientific.positional (s : Scientific) : List Char :=
  let ds := digits s.coefficient
  if 0 ≤ s.exponent then ds ++ List.replicate s.exponent.toNat '0'
  else
    let places := (-s.exponent).toNat
    if places < ds.length then
      ds.take (ds.length - places) ++ '.' :: ds.drop (ds.length - places)
    else '0' :: '.' :: List.replicate (places - ds.length) '0' ++ ds

/-- Writes one digit, the remaining digits behind a point, and the exponent of the first digit, which
has a sign if it is negative or if `plus` asks for one. -/
def Scientific.exponential (plus : Bool) (s : Scientific) : List Char :=
  let ds := digits s.coefficient
  let e := s.exponent + ds.length - 1
  let mantissa := if ds.length = 1 then ds else ds.take 1 ++ '.' :: ds.drop 1
  let sign := if e < 0 then ['-'] else if plus then ['+'] else []
  mantissa ++ 'e' :: sign ++ digits e.natAbs

/-- Writes sign and special values, and leaves a positive number to `write` and zero to `zero`. -/
def Binary.written (zero : String) (write : Nat → Int → List Char) : Binary → String
  | .nan => "NaN"
  | .infinite negative => if negative then "-inf" else "inf"
  | .finite negative m e =>
    let body := if m = 0 then zero.toList else write m e
    String.ofList (if negative then '-' :: body else body)

/-- The shortest decimal, always positional. -/
def Layout.plain (l : Layout) : Binary → String :=
  Binary.written "0" fun m e => (l.shortest .larger m e).positional

/-- What annotated forms decide differently. -/
structure Annotation where
  tie : Tie
  /-- Numbers below this power of ten have an exponent. -/
  least : Int
  /-- Exponents that are not negative have a sign too. -/
  plus : Bool
  deriving DecidableEq, Repr

/-- The shortest decimal with a point. From `10 ^ 16` on it has an exponent. -/
def Layout.annotated (l : Layout) (a : Annotation) : Binary → String :=
  Binary.written "0.0" fun m e =>
    let s := l.shortest a.tie m e
    let point := s.exponent + length s.coefficient
    if 17 ≤ point ∨ point ≤ a.least then s.exponential a.plus
    else if 0 ≤ s.exponent then s.positional ++ ['.', '0']
    else s.positional

/-- Rounds a quotient to the nearest natural number, a half to the even one. -/
def divNearest (n d : Nat) : Nat :=
  let q := n / d
  let r := n % d
  if 2 * r < d then q else if d < 2 * r then q + 1 else q + q % 2

/-- The exact value rounded to one decimal place. -/
def Binary.tenths : Binary → String :=
  Binary.written "0.0" fun m e =>
    let t := divNearest (10 * m * twoTo e.toNat) (twoTo (-e).toNat)
    digits (t / 10) ++ ['.', digitChar (t % 10)]

def ofFloat (x : Float) : String := Layout.double.plain (.ofFloat x)

def ofFloat32 (x : Float32) : String := Layout.single.plain (.ofFloat32 x)

def annotatedFloat32 (x : Float32) : String :=
  Layout.single.annotated ⟨.larger, -4, false⟩ (.ofFloat32 x)

def annotatedFloat (x : Float) : String := Layout.double.annotated ⟨.even, -5, true⟩ (.ofFloat x)

def tenthsOfFloat32 (x : Float32) : String := (Binary.ofFloat32 x).tenths

example : (Scientific.mk 125 (-3)).positional = "0.125".toList ∧
    (Scientific.mk 125 (-1)).positional = "12.5".toList ∧
    (Scientific.mk 125 2).positional = "12500".toList := by decide +kernel

example : (Scientific.mk 125 (-9)).exponential true = "1.25e-7".toList ∧
    (Scientific.mk 125 14).exponential true = "1.25e+16".toList ∧
    (Scientific.mk 1 16).exponential false = "1e16".toList := by decide +kernel

example : divNearest 5 2 = 2 ∧ divNearest 7 2 = 4 ∧ divNearest 8 3 = 3 := by decide

end UtilityCss.Decimal
