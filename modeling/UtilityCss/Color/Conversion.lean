import UtilityCss.Color.Channels
import UtilityCss.Color.Scalar

/-!
# Between channels and hue, saturation and lightness

Both directions are written for any scalar. The hue of a color without saturation is zero, and a hue
is taken modulo a full turn. Saturation and lightness are held to their ranges before channels are
computed.
-/
namespace UtilityCss.Color

variable {α : Type} [Add α] [Sub α] [Mul α] [Div α] [∀ n, OfNat α n] [LT α] [DecidableLT α] [BEq α]
  [Scalar α]

/-- The byte nearest to a channel between zero and one. -/
def channelByte (x : α) : UInt8 := Scalar.toByte (x * 255 + 1 / 2)

def Channels.toRgb (c : Channels α) : Rgb := ⟨channelByte c.red, channelByte c.green, channelByte c.blue⟩

/-- Each byte as a part of the greatest. -/
def Rgb.toChannels (c : Rgb) : Channels α :=
  ⟨Scalar.ofByte c.red / 255, Scalar.ofByte c.green / 255, Scalar.ofByte c.blue / 255⟩

/-- A number modulo a positive period, at least zero. -/
def wrapTo (period t : α) : α :=
  Scalar.remainder (Scalar.remainder t period + period) period

/-- Hue in degrees, saturation and lightness between zero and one. -/
def Channels.toHsl (c : Channels α) : Hsl α :=
  let high := greater c.red (greater c.green c.blue)
  let low := lesser c.red (lesser c.green c.blue)
  let lightness := (high + low) / 2
  if high == low then ⟨0, 0, clamp 0 1 lightness⟩
  else
    let span := high - low
    let saturation := if lightness < 1 / 2 then span / (high + low) else span / (2 - high - low)
    let red := (high - c.red) / span
    let green := (high - c.green) / span
    let blue := (high - c.blue) / span
    let sector :=
      if c.red == high then blue - green
      else if c.green == high then 2 + red - blue
      else 4 + green - red
    ⟨wrapTo 360 (Scalar.remainder (sector * 60) 360), clamp 0 1 saturation, clamp 0 1 lightness⟩

/-- One channel of a color from its two lightness bounds, at a sixth of a turn per unit. -/
def hueChannel (low high sixths : α) : α :=
  let h := wrapTo 6 sixths
  if h < 1 then low + (high - low) * h
  else if h < 3 then high
  else if h < 4 then low + (high - low) * (4 - h)
  else low

/-- The channels of a color whose saturation and lightness are between zero and one. -/
def Hsl.toChannels (c : Hsl α) : Channels α :=
  let s := clamp 0 1 c.saturation
  let l := clamp 0 1 c.lightness
  if s == 0 then ⟨l, l, l⟩
  else
    let high := if l < 1 / 2 then l * (1 + s) else l + s - l * s
    let low := 2 * l - high
    let h := wrapTo 360 c.hue / 60
    ⟨hueChannel low high (h + 2), hueChannel low high h, hueChannel low high (h - 2)⟩

/-- Converts channels; saturation and lightness are in percent. -/
def rgbToHsl (c : Rgb) : Hsl α :=
  let h := (c.toChannels : Channels α).toHsl
  ⟨h.hue, h.saturation * 100, h.lightness * 100⟩

/-- Converts back to channels, each to its nearest byte. -/
def hslToRgb (c : Hsl α) : Rgb :=
  (Hsl.toChannels ⟨c.hue, c.saturation / 100, c.lightness / 100⟩).toRgb

example : hslToRgb (rgbToHsl ⟨59, 130, 246⟩ : Hsl Rat) = ⟨59, 130, 246⟩ := by decide +kernel

end UtilityCss.Color
