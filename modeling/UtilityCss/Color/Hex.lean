import UtilityCss.Color.Channels
import UtilityCss.Text.Ascii
import UtilityCss.Text.Blank

/-!
# Hexadecimal colors

A color of a palette is written with three, four, six or eight hexadecimal digits behind any number
of `#`. A short form stands for the form with each digit doubled. Alpha digits are accepted and
dropped.
-/
namespace UtilityCss.Color

open UtilityCss.Text

/-- The byte of two hexadecimal digits. -/
def hexPair? (high low : Char) : Option UInt8 :=
  match hexValue? high, hexValue? low with
  | some h, some l => some (UInt8.ofNat (16 * h + l))
  | _, _ => none

/-- The color of the first three digits or digit pairs. -/
def ofHexDigits? : List Char → Option Rgb
  | [r, g, b] | [r, g, b, _] => do
    some ⟨← hexPair? r r, ← hexPair? g g, ← hexPair? b b⟩
  | [r, s, g, h, b, c] | [r, s, g, h, b, c, _, _] => do
    some ⟨← hexPair? r s, ← hexPair? g h, ← hexPair? b c⟩
  | _ => none

/-- The digits of a color: what is left without white space at the ends and `#` at the front. -/
def hexDigits (cs : List Char) : List Char := (trim isBlank cs).dropWhile (· == '#')

/-- Reads a color; every digit has to be hexadecimal, those of alpha too. -/
def hexToRgb (text : String) : Option Rgb :=
  let ds := hexDigits text.toList
  if ds.all isHexDigit then ofHexDigits? ds else none

/-- Writes a color with six digits. -/
def Rgb.hex (c : Rgb) : String :=
  let pair (b : UInt8) := [hexChar (b.toNat / 16), hexChar (b.toNat % 16)]
  String.ofList ('#' :: pair c.red ++ pair c.green ++ pair c.blue)

example : hexToRgb " ##3B82f6\n" = some ⟨59, 130, 246⟩ ∧ hexToRgb "f00" = some ⟨255, 0, 0⟩ ∧
    hexToRgb "#ff000080" = some ⟨255, 0, 0⟩ := by decide +kernel

example : hexToRgb "#12345" = none ∧ hexToRgb "+fffff" = none ∧ hexToRgb "fffffffg" = none := by
  decide +kernel

end UtilityCss.Color
