import UtilityCss.Decimal.Shortest

/-!
# Reading decimals

The accepted texts are: a sign or none, then `inf`, `infinity` or `nan` in any case, or digits with at
most one point and at least one digit, then a power of ten or none. Nothing may stand before or
behind. The number that is read is the nearest one of its width.
-/
namespace UtilityCss.Decimal

open UtilityCss.Text

/-- A decimal text taken apart. -/
inductive Numeral where
  | nan
  | infinite (negative : Bool)
  | finite (negative : Bool) (value : Scientific)
  deriving DecidableEq, Repr

/-- A sign at the front, and what follows it. -/
def splitSign : List Char → Bool × List Char
  | '-' :: r => (true, r)
  | '+' :: r => (false, r)
  | cs => (false, cs)

/-- The power of ten behind the digits: none, or a marker, a sign or none, and at least one digit. -/
def exponent? : List Char → Option Int
  | [] => some 0
  | c :: r =>
    if c == 'e' || c == 'E' then
      let (negative, ds) := splitSign r
      if ds.isEmpty || !ds.all isDigit then none
      else some (if negative then -(natOfDigits ds : Int) else natOfDigits ds)
    else none

/-- Digits with at most one point, and the text behind them. -/
def splitDigits (cs : List Char) : List Char × List Char × List Char :=
  let whole := cs.takeWhile isDigit
  match cs.dropWhile isDigit with
  | '.' :: r => (whole, r.takeWhile isDigit, r.dropWhile isDigit)
  | r => (whole, [], r)

/-- Reads a finite decimal without a sign. -/
def Scientific.ofText? (cs : List Char) : Option Scientific :=
  let (whole, fraction, rest) := splitDigits cs
  if whole.isEmpty && fraction.isEmpty then none
  else (exponent? rest).map fun e =>
    ⟨natOfDigits (whole ++ fraction), e - fraction.length⟩

def Numeral.ofText? (cs : List Char) : Option Numeral :=
  let (negative, body) := splitSign cs
  if sameIgnoringCase body "inf".toList || sameIgnoringCase body "infinity".toList then
    some (.infinite negative)
  else if sameIgnoringCase body "nan".toList then some .nan
  else (Scientific.ofText? body).map (.finite negative)

/-- The position of the first digit, by which numbers beyond every width are told apart. -/
def Scientific.point (s : Scientific) : Int := s.exponent + length s.coefficient

/-- The nearest double of a positive decimal. Beyond `10 ^ ±400` no digit matters. -/
def Scientific.toFloat (s : Scientific) : Float :=
  if s.coefficient = 0 ∨ s.point < -400 then 0.0
  else if 400 < s.point then 1.0 / 0.0
  else Float.ofScientific s.coefficient (decide (s.exponent < 0)) s.exponent.natAbs

/-- The nearest single-precision number of a positive decimal. -/
def Scientific.toFloat32 (s : Scientific) : Float32 :=
  if s.coefficient = 0 ∨ s.point < -400 then 0.0
  else if 400 < s.point then 1.0 / 0.0
  else Float32.ofScientific s.coefficient (decide (s.exponent < 0)) s.exponent.natAbs

def Numeral.toFloat : Numeral → Float
  | .nan => 0.0 / 0.0
  | .infinite negative => if negative then -(1.0 / 0.0) else 1.0 / 0.0
  | .finite negative s => if negative then -s.toFloat else s.toFloat

def Numeral.toFloat32 : Numeral → Float32
  | .nan => 0.0 / 0.0
  | .infinite negative => if negative then -(1.0 / 0.0) else 1.0 / 0.0
  | .finite negative s => if negative then -s.toFloat32 else s.toFloat32

def float? (text : String) : Option Float := (Numeral.ofText? text.toList).map Numeral.toFloat

def float32? (text : String) : Option Float32 := (Numeral.ofText? text.toList).map Numeral.toFloat32

example : Numeral.ofText? "-1.50e2".toList = some (.finite true ⟨150, 0⟩) := by decide

example : [".", "", "+", "1e", "1 ", "0x1"].map (fun t => Numeral.ofText? t.toList) =
    [none, none, none, none, none, none] := by decide

example : Numeral.ofText? "5.".toList = some (.finite false ⟨5, 0⟩) ∧
    Numeral.ofText? "+Infinity".toList = some (.infinite false) := by decide

end UtilityCss.Decimal
