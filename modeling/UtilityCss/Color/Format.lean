import UtilityCss.Color.Perceptual
import UtilityCss.Decimal.Text

/-!
# Written colors

A palette is written in one of three functional notations. Numbers in them are rounded to a fixed
number of places and written without trailing zeros. A color that is written here has no alpha, so
that one can be added before the closing parenthesis.
-/
namespace UtilityCss.Color

/-- The functional notation of a palette's colors. -/
inductive Format where
  | rgb
  | hsl
  | oklch
  deriving DecidableEq, Repr

instance : Inhabited Format := ⟨.oklch⟩

def Format.name : Format → String
  | .rgb => "rgb"
  | .hsl => "hsl"
  | .oklch => "oklch"

def Format.all : List Format := [.rgb, .hsl, .oklch]

def Format.ofName? (name : String) : Option Format := Format.all.find? (·.name == name)

/-- Rounds at a decimal scale, a half away from zero; zero has no sign. -/
def rounded (scale x : Float32) : String :=
  let r := (x * scale).round / scale
  if r == 0.0 then "0" else Decimal.ofFloat32 r

/-- Writes a color in the format. -/
def Format.wrap (format : Format) (c : Rgb) : String :=
  match format with
  | .rgb => "rgb(" ++ c.components ++ ")"
  | .hsl =>
    let h : Hsl Float32 := rgbToHsl c
    "hsl(" ++ rounded 10 h.hue ++ " " ++ rounded 10 h.saturation ++ "% " ++
      rounded 10 h.lightness ++ "%)"
  | .oklch =>
    let h := (c.toChannels : Channels Float32).toOklab.toOklch
    "oklch(" ++ rounded 10 (h.lightness * 100) ++ "% " ++ rounded 1000 h.chroma ++ " " ++
      rounded 10 h.hue ++ ")"

end UtilityCss.Color
