import UtilityCss.Color.Conversion

/-!
# The OKLab color space

Conversions between sRGB channels and lightness with two opponent axes, in single precision. Each
operation is rounded once and in the order that is written, because the last digit of the output
depends on it. The roots and powers are those of the platform; nothing is proved about their values.
-/
namespace UtilityCss.Color

structure Oklab where
  lightness : Float32
  a : Float32
  b : Float32

/-- Removes the transfer curve of sRGB from a channel. -/
def linearOfGamma (x : Float32) : Float32 :=
  if 0.04045 ≤ x then ((x + 0.055) / 1.055).pow 2.4 else x / 12.92

/-- Applies the transfer curve of sRGB to a channel. -/
def gammaOfLinear (x : Float32) : Float32 :=
  if 0.0031308 ≤ x then 1.055 * x.pow (1.0 / 2.4) - 0.055 else 12.92 * x

def Channels.toOklab (c : Channels Float32) : Oklab :=
  let r := linearOfGamma c.red
  let g := linearOfGamma c.green
  let b := linearOfGamma c.blue
  let l := (0.4122214708 * r + 0.5363325363 * g + 0.0514459929 * b).cbrt
  let m := (0.2119034982 * r + 0.6806995451 * g + 0.1073969566 * b).cbrt
  let s := (0.0883024619 * r + 0.2817188376 * g + 0.6299787005 * b).cbrt
  { lightness := 0.2104542553 * l + 0.7936177850 * m - 0.0040720468 * s
    a := 1.9779984951 * l - 2.4285922050 * m + 0.4505937099 * s
    b := 0.0259040371 * l + 0.7827717662 * m - 0.8086757660 * s }

def Oklab.toChannels (c : Oklab) : Channels Float32 :=
  let cube (x : Float32) := x * x * x
  let l := cube (c.lightness + 0.3963377774 * c.a + 0.2158037573 * c.b)
  let m := cube (c.lightness - 0.1055613458 * c.a - 0.0638541728 * c.b)
  let s := cube (c.lightness - 0.0894841775 * c.a - 1.2914855480 * c.b)
  { red := gammaOfLinear (4.0767416621 * l - 3.3077115913 * m + 0.2309699292 * s)
    green := gammaOfLinear (-1.2684380046 * l + 2.6097574011 * m - 0.3413193965 * s)
    blue := gammaOfLinear (-0.0041960863 * l - 0.7034186147 * m + 1.7076147010 * s) }

/-- An angle in degrees between zero and a full turn. -/
def fullTurn (degrees : Float32) : Float32 :=
  let r := Scalar.remainder degrees 360
  if r < 0 then r + 360 else r

/-- Lightness, chroma and hue in degrees. Without chroma the hue is zero. -/
structure Oklch where
  lightness : Float32
  chroma : Float32
  hue : Float32

/-- Chroma is the length of the two axes, computed in double precision and rounded once. -/
def Oklab.toOklch (c : Oklab) : Oklch :=
  let x := c.a.toFloat
  let y := c.b.toFloat
  let chroma := (x * x + y * y).sqrt.toFloat32
  let hue := if chroma < 1e-4 then 0.0 else fullTurn (Float32.atan2 c.b c.a * 57.29577951)
  ⟨c.lightness, chroma, hue⟩

def Oklch.toOklab (c : Oklch) : Oklab :=
  let h := c.hue * 0.01745329252
  ⟨c.lightness, c.chroma * h.cos, c.chroma * h.sin⟩

end UtilityCss.Color
