import UtilityCss.Decimal.Reading
import UtilityCss.Json.Fault

/-!
# Numbers of JSON

A number is first taken apart as it is written. Whole numbers of at most 64 bits stay exact; all others
become doubles by a fixed sequence of operations: the leading digits that fit into 64 bits, then
divisions or one multiplication by a power of ten. That is not always the nearest double. A number
beyond the doubles counts as malformed, one too small for them is zero.
-/
namespace UtilityCss.Json

open UtilityCss.Text

/-- A number as written, in strings of digits. -/
structure Numeral where
  negative : Bool
  whole : List Char
  fraction : Option (List Char)
  exponent : Option (Bool × List Char)
  deriving DecidableEq, Repr

/-- At least one digit; `atEnd` is the fault at the end of the text. -/
def someDigits (atEnd : Fault (List Char)) (cs : List Char) :
    Except (Fault (List Char)) (List Char × List Char) :=
  match cs with
  | [] => .error atEnd
  | c :: _ =>
    if isDigit c then .ok (cs.takeWhile isDigit, cs.dropWhile isDigit) else .error .malformed

/-- Digits without a leading zero. -/
def wholePart (atEnd : Fault (List Char)) (cs : List Char) :
    Except (Fault (List Char)) (List Char × List Char) := do
  let (ds, rest) ← someDigits atEnd cs
  if ds.head? = some '0' ∧ ds ≠ ['0'] then .error .malformed else .ok (ds, rest)

/-- Digits behind a point, if there is one. -/
def fractionPart (atEnd : Fault (List Char)) (cs : List Char) :
    Except (Fault (List Char)) (Option (List Char) × List Char) :=
  match cs with
  | '.' :: r => (someDigits atEnd r).map fun (ds, rest) => (some ds, rest)
  | _ => .ok (none, cs)

/-- A power of ten with its sign, if there is one. -/
def exponentPart (atEnd : Fault (List Char)) (cs : List Char) :
    Except (Fault (List Char)) (Option (Bool × List Char) × List Char) :=
  match cs with
  | [] => .ok (none, [])
  | c :: r =>
    if c = 'e' ∨ c = 'E' then
      let (negative, r) := Decimal.splitSign r
      (someDigits atEnd r).map fun (ds, rest) => (some (negative, ds), rest)
    else .ok (none, cs)

/-- Takes a number apart. -/
def Numeral.read (atEnd : Fault (List Char)) : Reader Numeral := fun cs => do
  let (negative, cs) := match cs with
    | '-' :: r => (true, r)
    | _ => (false, cs)
  let (whole, cs) ← wholePart atEnd cs
  let (fraction, cs) ← fractionPart atEnd cs
  let (exponent, cs) ← exponentPart atEnd cs
  return (⟨negative, whole, fraction, exponent⟩, cs)

inductive Number where
  | integer (value : Int)
  | real (value : Float)

def ofNat (n : Nat) : Float := Float.ofScientific n false 0

/-- The power of ten nearest to the exact one, for exponents up to 308. -/
def powerOfTen (e : Nat) : Float := Float.ofScientific 1 false e

/-- The least number that does not fit into 64 bits. -/
def wordSize : Nat := Decimal.twoTo 64

/-- Continues a number with digits as long as it fits into 64 bits, and counts the digits left. -/
def fill (n : Nat) : List Char → Nat × Nat
  | [] => (n, 0)
  | c :: r =>
    let next := 10 * n + (digitValue? c).getD 0
    if next < wordSize then fill next r else (n, r.length + 1)

/-- Scales by a power of ten. Two divisions take every number of 64 bits to zero. -/
def scale (x : Float) (e : Int) : Except (Fault (List Char)) Float :=
  if 308 < e then if x == 0.0 then .ok x else .error .malformed
  else if 0 ≤ e then
    let y := x * powerOfTen e.toNat
    if y.isInf then .error .malformed else .ok y
  else if -308 ≤ e then .ok (x / powerOfTen (-e).toNat)
  else .ok (x / powerOfTen 308 / powerOfTen (min 308 (-e - 308).toNat))

/-- The double of a number as written. -/
def Numeral.toFloat (n : Numeral) : Except (Fault (List Char)) Float := do
  let fraction := n.fraction.getD []
  let (whole, dropped) := fill 0 n.whole
  let (significand, unread) := fill whole fraction
  let power : Int := match n.exponent with
    | none => 0
    | some (negative, ds) => if negative then -(natOfDigits ds : Int) else natOfDigits ds
  let x ← scale (ofNat significand) (dropped - (fraction.length - unread : Nat) + power)
  return if n.negative then -x else x

/-- The value of a number as written. The negative whole numbers are those of 64 bits with a sign, so
that minus zero is none of them. -/
def Numeral.value (n : Numeral) : Except (Fault (List Char)) Number :=
  let i := natOfDigits n.whole
  if n.fraction.isSome || n.exponent.isSome || decide (wordSize ≤ i) then n.toFloat.map .real
  else if n.negative then
    .ok (if i = 0 ∨ wordSize < 2 * i then .real (-ofNat i) else .integer (-i))
  else .ok (.integer i)

/-- Reads a number. -/
def Number.read : Reader Number := fun cs => do
  let (n, rest) ← Numeral.read .unfinished cs
  return (← n.value, rest)

def Number.toFloat : Number → Float
  | .integer i => if i < 0 then -ofNat i.natAbs else ofNat i.natAbs
  | .real x => x

/-- Whole numbers are rounded once, all others a second time. -/
def Number.toFloat32 : Number → Float32
  | .integer i =>
    let x := Float32.ofScientific i.natAbs false 0
    if i < 0 then -x else x
  | .real x => x.toFloat32

example : Numeral.read .unfinished "-12.50e+3,".toList =
    .ok (⟨true, "12".toList, some "50".toList, some (false, "3".toList)⟩, [',']) := by cbv

example : ["01", "-x", "1.x", "1ex", ".5"].map (fun t => Numeral.read .unfinished t.toList) =
    List.replicate 5 (.error .malformed) := by cbv

example : ["-", "1.", "1e", "1e+"].map (fun t => Numeral.read .unfinished t.toList) =
    List.replicate 4 (.error .unfinished) := by cbv

end UtilityCss.Json
