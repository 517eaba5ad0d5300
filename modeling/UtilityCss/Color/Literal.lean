import UtilityCss.Color.Named
import UtilityCss.Color.Perceptual
import UtilityCss.Decimal.Reading
import UtilityCss.Text.Blank

/-!
# Color literals

A literal is hexadecimal, a function with three arguments and an opacity or none, or a name. Letters
are read without regard to ASCII case, and white space around the literal is dropped. Functions that
cannot be evaluated here may still be colors: a text that looks like one is a color, although it has
no channels.
-/
namespace UtilityCss.Color

open UtilityCss.Text

/-- Four bytes, the last of which is the opacity. -/
structure Rgba where
  color : Rgb
  alpha : UInt8
  deriving DecidableEq, Repr

/-! ## Hexadecimal forms -/

/-- The byte of a digit pair; a plus sign may stand in the place of the first digit. -/
def bytePair? (high low : Char) : Option UInt8 :=
  let h := if high == '+' then some 0 else hexValue? high
  match h, hexValue? low with
  | some h, some l => some (UInt8.ofNat (16 * h + l))
  | _, _ => none

/-- The byte of a digit that stands for two. -/
def byteDigit? (d : Char) : Option UInt8 := (hexValue? d).map fun v => UInt8.ofNat (17 * v)

def hexLiteral? : List Char → Option Rgba
  | [r, g, b] => do
    some ⟨⟨← byteDigit? r, ← byteDigit? g, ← byteDigit? b⟩, 255⟩
  | [r, g, b, a] => do
    some ⟨⟨← byteDigit? r, ← byteDigit? g, ← byteDigit? b⟩, ← byteDigit? a⟩
  | [r, s, g, h, b, c] => do
    some ⟨⟨← bytePair? r s, ← bytePair? g h, ← bytePair? b c⟩, 255⟩
  | [r, s, g, h, b, c, a, e] => do
    some ⟨⟨← bytePair? r s, ← bytePair? g h, ← bytePair? b c⟩, ← bytePair? a e⟩
  | _ => none

/-! ## Arguments of functions -/

def number? (cs : List Char) : Option Float32 := (Decimal.Numeral.ofText? cs).map (·.toFloat32)

/-- Drops an ending, without regard to ASCII case. -/
def dropEnding? (ending cs : List Char) : Option (List Char) :=
  let n := cs.length - ending.length
  if ending.length ≤ cs.length && sameIgnoringCase (cs.drop n) ending then some (cs.take n) else none

/-- An argument: a percentage as a part of one, or a plain number. -/
structure Argument where
  value : Float32
  percent : Bool

def argument? (cs : List Char) : Option Argument :=
  match cs.getLast? with
  | some '%' => (number? cs.dropLast).map fun x => ⟨x / 100, true⟩
  | _ => (number? cs).map fun x => ⟨x, false⟩

/-- The units of angles, each with its length in degrees. The first unit that leaves a number counts;
`grad` is tried before `rad`, of which it is a longer spelling. -/
def angleUnits : List (String × (Float32 → Float32)) :=
  [("deg", fun t => t), ("grad", fun t => t * 360 / 400), ("rad", fun t => t * 57.29577951),
   ("turn", fun t => t * 360), ("", fun t => t)]

/-- An angle in degrees. -/
def angle? (cs : List Char) : Option Float32 :=
  angleUnits.findSome? fun (unit, degrees) =>
    (dropEnding? unit.toList cs).bind fun body => (number? body).map degrees

/-- The maximal runs without a separator. -/
def words (separator : Char → Bool) : List Char → List (List Char)
  | [] => []
  | c :: r =>
    if separator c then words separator r
    else
      match r, words separator r with
      | d :: _, w :: ws => if separator d then [c] :: w :: ws else (c :: w) :: ws
      | _, ws => [c] :: ws

/-- What separates arguments: commas, slashes and white space. -/
def isSeparator (c : Char) : Bool := c == ',' || c == '/' || isCssBlank c

/-! ## Functions -/

/-- Moves the least number of a range to zero at the least; a text that is no number counts as zero. -/
def atLeastZero (x : Float32) : Float32 := greater x 0

/-- Lightness by whiteness and blackness of a pure hue. -/
def ofHwb (hue white black : Float32) : Channels Float32 :=
  if 1 ≤ white + black then
    let l := white / (white + black)
    ⟨l, l, l⟩
  else
    let c := Hsl.toChannels ⟨hue, 1, 1 / 2⟩
    let mix (x : Float32) := x * (1 - white - black) + white
    ⟨mix c.red, mix c.green, mix c.blue⟩

/-- Hue, saturation and value. -/
def ofHsv (hue saturation value : Float32) : Channels Float32 :=
  let l := (2 - saturation) * value / 2
  let s :=
    if l == 0 then saturation
    else if l == 1 then 0
    else if l < 1 / 2 then saturation * value / (l * 2)
    else saturation * value / (2 - l * 2)
  Hsl.toChannels ⟨hue, s, l⟩

/-- The functions of a hue and two parts, which are both percentages or both plain numbers. -/
def hueFunction? (make : Float32 → Float32 → Float32 → Channels Float32) (a b c : List Char) :
    Option (Channels Float32) := do
  let hue ← angle? a
  let x ← argument? b
  let y ← argument? c
  if x.percent == y.percent then some (make hue (clamp 0 1 x.value) (clamp 0 1 y.value)) else none

/-- Three channels, which are all percentages or all plain numbers. -/
def rgbFunction? (a b c : List Char) : Option (Channels Float32) := do
  let r ← argument? a
  let g ← argument? b
  let b ← argument? c
  if r.percent == g.percent && g.percent == b.percent then
    let part (x : Argument) := clamp 0 1 (if x.percent then x.value else x.value / 255)
    some ⟨part r, part g, part b⟩
  else none

/-- An axis of OKLab, on which a percentage runs from one end to the other. -/
def axis (x : Argument) : Float32 :=
  if x.percent then (x.value + 1) * ((0.4 - -0.4) / 2) + -0.4 else x.value

def oklabFunction? (a b c : List Char) : Option (Channels Float32) := do
  let l ← argument? a
  let x ← argument? b
  let y ← argument? c
  some (Oklab.toChannels ⟨atLeastZero l.value, axis x, axis y⟩)

def oklchFunction? (a b c : List Char) : Option (Channels Float32) := do
  let l ← argument? a
  let chroma ← argument? b
  let hue ← angle? c
  let chroma := if chroma.percent then chroma.value * 0.4 else chroma.value
  some (Oklch.toOklab ⟨atLeastZero l.value, atLeastZero chroma, hue⟩).toChannels

/-- The functions that can be evaluated. -/
def function? (name : String) : Option (List Char → List Char → List Char → Option (Channels Float32)) :=
  match name with
  | "rgb" | "rgba" => some rgbFunction?
  | "hsl" | "hsla" => some (hueFunction? fun h s l => Hsl.toChannels ⟨h, s, l⟩)
  | "hwb" | "hwba" => some (hueFunction? ofHwb)
  | "hsv" | "hsva" => some (hueFunction? ofHsv)
  | "oklab" => some oklabFunction?
  | "oklch" => some oklchFunction?
  | _ => none

/-- The opacity of a function; without one it is full. -/
def alpha? : List (List Char) → Option Float32
  | [] => some 1
  | [a] => (argument? a).map fun x => clamp 0 1 x.value
  | _ => none

/-- Evaluates a function of a name and the text between its parentheses. -/
def evaluate? (name arguments : List Char) : Option Rgba :=
  match words isSeparator arguments with
  | a :: b :: c :: rest => do
    let alpha ← alpha? rest
    let apply ← function? (String.ofList (lower name))
    let channels ← apply a b c
    some ⟨channels.toRgb, channelByte alpha⟩
  | _ => none

/-! ## Literals -/

/-- A text with an opening parenthesis that ends with a closing one: what stands before the first
opening one, and what stands between. -/
def splitFunction? (cs : List Char) : Option (List Char × List Char) :=
  if cs.contains '(' && cs.getLast? == some ')' then
    let body := cs.dropLast
    some (trimEnd isBlank (body.takeWhile (· != '(')), (body.dropWhile (· != '(')).drop 1)
  else none

/-- The channels of a literal. What starts like one kind of literal is not read as another. -/
def literal? (text : String) : Option Rgba :=
  let cs := trim isBlank text.toList
  if sameIgnoringCase cs "transparent".toList then some ⟨⟨0, 0, 0⟩, 0⟩
  else if cs.head? == some '#' then hexLiteral? (cs.drop 1)
  else
    match splitFunction? cs with
    | some (name, arguments) => evaluate? name arguments
    | none => (hexLiteral? cs).or ((named? cs).map fun c => ⟨c, 255⟩)

/-! ## Which values are colors -/

/-- Keywords that count as colors everywhere. -/
def colorKeywords : List String := ["inherit", "current", "black", "white", "transparent"]

/-- The openings of functions that are colors, whatever their arguments are. -/
def colorFunctions : List String :=
  ["rgb(", "rgba(", "hsl(", "hsla(", "hwb(", "lab(", "lch(", "oklab(", "oklch(", "color(",
   "color-mix("]

/-- A value is a color if it is a color function or a literal. Hexadecimal digits alone are none, so
that numbers and words such as `fade` are never taken for colors. -/
def isColor (value : String) : Bool :=
  if value.toList.all isHexDigit then false
  else
    let folded := lower value.toList
    (colorFunctions.any (fun f => f.toList.isPrefixOf folded) && folded.getLast? == some ')') ||
      (literal? value).isSome

def isColorOrKeyword (value : String) : Bool := colorKeywords.contains value || isColor value

example : words isSeparator " a,/b  c ".toList = [['a'], ['b'], ['c']] := by decide +kernel

example : hexLiteral? "+f0000".toList = some ⟨⟨15, 0, 0⟩, 255⟩ := by decide

example : (["100", "fade", "", "md", "12px"].any isColor) = false := by decide +kernel

end UtilityCss.Color
