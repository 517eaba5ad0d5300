import UtilityCss.Proofs.Color.Scalar

/-!
# Hue, saturation and lightness keep a color

Over the rationals every color between black and white comes back from hue, saturation and lightness as it
was, so that no byte of a base color changes on the way. Saturation and lightness give back the greatest and
the least channel. The hue gives back the one between them: seen from the greatest channel, the other two
lie a third of a turn on either side, whichever channel is the greatest.
-/
namespace UtilityCss.Color

variable {low high t : Rat}

/-! ## The channel of a hue -/

theorem hueChannel_rising (n : ℤ) (least : 0 ≤ t) (most : t ≤ 1) :
    hueChannel low high (t + 6 * n) = low + (high - low) * t := by
  rw [hueChannel, wrapTo_eq n least (by linarith)]
  rcases most.lt_or_eq with below | rfl
  · rw [if_pos below]
  · norm_num

theorem hueChannel_top (n : ℤ) (least : 1 ≤ t) (most : t ≤ 3) :
    hueChannel low high (t + 6 * n) = high := by
  rw [hueChannel, wrapTo_eq n (by linarith) (by linarith), if_neg (not_lt.mpr least)]
  rcases most.lt_or_eq with below | rfl
  · rw [if_pos below]
  · norm_num

theorem hueChannel_falling (n : ℤ) (least : 3 ≤ t) (most : t ≤ 4) :
    hueChannel low high (t + 6 * n) = low + (high - low) * (4 - t) := by
  rw [hueChannel, wrapTo_eq n (by linarith) (by linarith), if_neg (by linarith), if_neg (by linarith)]
  rcases most.lt_or_eq with below | rfl
  · rw [if_pos below]
  · norm_num

theorem hueChannel_bottom (n : ℤ) (least : 4 ≤ t) (most : t ≤ 6) :
    hueChannel low high (t + 6 * n) = low := by
  rcases most.lt_or_eq with below | rfl
  · rw [hueChannel, wrapTo_eq n (by linarith) below, if_neg (by linarith), if_neg (by linarith),
      if_neg (by linarith)]
  · have turn : (6 : Rat) + 6 * n = 0 + 6 * ((n + 1 : ℤ) : Rat) := by
      push_cast
      ring
    rw [turn, hueChannel_rising (n + 1) le_rfl zero_le_one, mul_zero, add_zero]

/-- Two channels below the greatest differ by a part of the span that is a hue. From it the greatest is found a
third of a turn ahead, the first of the two where it stands, and the second two thirds ahead. -/
theorem hueChannel_sector {first second : Rat} (bottom : low = min first second)
    (firstMost : first ≤ high) (secondMost : second ≤ high) (spread : low < high)
    (sector : t = (first - second) / (high - low)) (n : ℤ) :
    hueChannel low high (t + 2 + 6 * n) = high ∧ hueChannel low high (t + 6 * n) = first ∧
      hueChannel low high (t + 4 + 6 * n) = second := by
  have span : 0 < high - low := by linarith
  have part : (high - low) * t = first - second := by
    rw [sector]
    field_simp
  rcases le_total second first with order | order
  · rw [min_eq_right order] at bottom
    have least : 0 ≤ t := by
      rw [sector]
      exact div_nonneg (by linarith) span.le
    have most : t ≤ 1 := by
      rw [sector, div_le_one span]
      linarith
    refine ⟨hueChannel_top n (by linarith) (by linarith), ?_, ?_⟩
    · rw [hueChannel_rising n least most, part]
      linarith
    · rw [hueChannel_bottom n (by linarith) (by linarith)]
      exact bottom
  · rw [min_eq_left order] at bottom
    have most : t ≤ 0 := by
      rw [sector]
      exact div_nonpos_of_nonpos_of_nonneg (by linarith) span.le
    have least : -1 ≤ t := by
      rw [sector, le_div_iff₀ span]
      linarith
    refine ⟨hueChannel_top n (by linarith) (by linarith), ?_, ?_⟩
    · have turn : t + 6 * n = t + 6 + 6 * ((n - 1 : ℤ) : Rat) := by
        push_cast
        ring
      rw [turn, hueChannel_bottom (n - 1) (by linarith) (by linarith)]
      exact bottom
    · rw [hueChannel_falling n (by linarith) (by linarith)]
      linear_combination bottom - part

/-! ## Saturation and lightness -/

/-- The saturation of a color with the greatest and the least channel. -/
def saturationOf (low high : Rat) : Rat :=
  if (high + low) / 2 < 1 / 2 then (high - low) / (high + low) else (high - low) / (2 - high - low)

theorem saturationOf_mem (black : 0 ≤ low) (spread : low < high) (white : high ≤ 1) :
    0 < saturationOf low high ∧ saturationOf low high ≤ 1 := by
  rw [saturationOf]
  split
  · have positive : 0 < high + low := by linarith
    refine ⟨div_pos (by linarith) positive, ?_⟩
    rw [div_le_one positive]
    linarith
  · have positive : 0 < 2 - high - low := by linarith
    refine ⟨div_pos (by linarith) positive, ?_⟩
    rw [div_le_one positive]
    linarith

/-- Either way of reading the saturation leads back to the greatest channel. -/
theorem greatest_eq (black : 0 ≤ low) (spread : low < high) (white : high ≤ 1) :
    (if (high + low) / 2 < 1 / 2 then (high + low) / 2 * (1 + saturationOf low high)
      else (high + low) / 2 + saturationOf low high - (high + low) / 2 * saturationOf low high) =
      high := by
  rw [saturationOf]
  split
  · have positive : high + low ≠ 0 := by linarith
    field_simp
    ring
  · have positive : 2 - high - low ≠ 0 := by linarith
    field_simp
    ring

/-- The channels of a hue with the saturation and the lightness of two levels. -/
theorem toChannels_of_levels (hue : Rat) (black : 0 ≤ low) (spread : low < high) (white : high ≤ 1) :
    Hsl.toChannels ⟨hue, saturationOf low high, (high + low) / 2⟩ =
      ⟨hueChannel low high (wrapTo 360 hue / 60 + 2), hueChannel low high (wrapTo 360 hue / 60),
        hueChannel low high (wrapTo 360 hue / 60 - 2)⟩ := by
  obtain ⟨saturated, most⟩ := saturationOf_mem black spread white
  have some : (saturationOf low high == 0) = false := beq_eq_false_iff_ne.mpr saturated.ne'
  have least : 2 * ((high + low) / 2) - high = low := by ring
  simp only [Hsl.toChannels, clamp_eq_self saturated.le most,
    clamp_eq_self (by linarith : 0 ≤ (high + low) / 2) (by linarith : (high + low) / 2 ≤ 1), some,
    Bool.false_eq_true, if_false, greatest_eq black spread white, least]

/-! ## Hue -/

/-- A hue in degrees is its sector up to full turns. -/
theorem exists_turns (sector : Rat) : ∃ n : ℤ,
    wrapTo 360 (wrapTo 360 (Scalar.remainder (sector * 60) 360)) / 60 = sector + 6 * n := by
  obtain ⟨n, first, -⟩ := exists_remainder (by norm_num : (0 : Rat) < 360) (sector * 60)
  obtain ⟨m, second, -⟩ := exists_wrapTo (by norm_num : (0 : Rat) < 360)
    (Scalar.remainder (sector * 60) 360)
  obtain ⟨k, third, -⟩ := exists_wrapTo (by norm_num : (0 : Rat) < 360)
    (wrapTo 360 (Scalar.remainder (sector * 60) 360))
  refine ⟨-(n + m + k), ?_⟩
  rw [third, second, first]
  push_cast
  ring

/-! ## Colors -/

/-- A color between black and white. -/
structure Channels.InUnit (c : Channels Rat) : Prop where
  red : 0 ≤ c.red ∧ c.red ≤ 1
  green : 0 ≤ c.green ∧ c.green ≤ 1
  blue : 0 ≤ c.blue ∧ c.blue ≤ 1

/-- The greatest and the least channel. -/
def Channels.greatest (c : Channels Rat) : Rat := max c.red (max c.green c.blue)

def Channels.least (c : Channels Rat) : Rat := min c.red (min c.green c.blue)

/-- The hue in sixths of a turn. The greatest channel gives the third of the circle, and the difference of
the other two the place in it. -/
def Channels.sector (c : Channels Rat) : Rat :=
  if c.red = c.greatest then (c.green - c.blue) / (c.greatest - c.least)
  else if c.green = c.greatest then 2 + (c.blue - c.red) / (c.greatest - c.least)
  else 4 + (c.red - c.green) / (c.greatest - c.least)

variable {c : Channels Rat}

theorem Channels.InUnit.levels (unit : c.InUnit) : 0 ≤ c.least ∧ c.least ≤ c.greatest ∧ c.greatest ≤ 1 := by
  obtain ⟨⟨red, red'⟩, ⟨green, green'⟩, ⟨blue, blue'⟩⟩ := unit
  refine ⟨le_min red (le_min green blue), ?_, max_le red' (max_le green' blue')⟩
  exact (min_le_left _ _).trans (le_max_left _ _)

theorem toHsl_of_gray (unit : c.InUnit) (gray : c.greatest = c.least) :
    c.toHsl = ⟨0, 0, c.greatest⟩ := by
  obtain ⟨black, -, white⟩ := unit.levels
  have same : (max c.red (max c.green c.blue) == min c.red (min c.green c.blue)) = true :=
    beq_iff_eq.mpr gray
  have middle : (c.greatest + c.least) / 2 = c.greatest := by rw [← gray]; ring
  simp only [Channels.toHsl, greater_eq_max, lesser_eq_min, same, if_true]
  rw [← Channels.greatest, ← Channels.least, middle, clamp_eq_self (by rw [gray]; exact black) white]

theorem Channels.le_greatest (c : Channels Rat) :
    c.red ≤ c.greatest ∧ c.green ≤ c.greatest ∧ c.blue ≤ c.greatest :=
  ⟨le_max_left _ _, (le_max_left _ _).trans (le_max_right _ _),
    (le_max_right _ _).trans (le_max_right _ _)⟩

theorem Channels.least_le (c : Channels Rat) :
    c.least ≤ c.red ∧ c.least ≤ c.green ∧ c.least ≤ c.blue :=
  ⟨min_le_left _ _, (min_le_right _ _).trans (min_le_left _ _),
    (min_le_right _ _).trans (min_le_right _ _)⟩

/-- Without saturation all channels are the lightness. -/
theorem toChannels_of_gray (unit : c.InUnit) (gray : c.greatest = c.least) :
    Hsl.toChannels ⟨0, 0, c.greatest⟩ = c := by
  obtain ⟨black, -, white⟩ := unit.levels
  obtain ⟨red, green, blue⟩ := c.le_greatest
  obtain ⟨red', green', blue'⟩ := gray ▸ c.least_le
  have lightness : clamp 0 1 c.greatest = c.greatest := clamp_eq_self (gray ▸ black) white
  have none : (clamp 0 1 (0 : Rat) == 0) = true := by decide +kernel
  simp only [Hsl.toChannels, lightness, none, if_true]
  have same : (⟨c.red, c.green, c.blue⟩ : Channels Rat) = ⟨c.greatest, c.greatest, c.greatest⟩ := by
    rw [le_antisymm red red', le_antisymm green green', le_antisymm blue blue']
  exact same.symm

/-- Where the channels differ, the hue is the sector in degrees. -/
theorem toHsl_of_spread (unit : c.InUnit) (spread : c.least < c.greatest) :
    c.toHsl = ⟨wrapTo 360 (Scalar.remainder (c.sector * 60) 360), saturationOf c.least c.greatest,
      (c.greatest + c.least) / 2⟩ := by
  obtain ⟨black, -, white⟩ := unit.levels
  obtain ⟨saturated, most⟩ := saturationOf_mem black spread white
  have differ : (max c.red (max c.green c.blue) == min c.red (min c.green c.blue)) = false :=
    beq_eq_false_iff_ne.mpr spread.ne'
  simp only [Channels.toHsl, greater_eq_max, lesser_eq_min, differ, Bool.false_eq_true, if_false, beq_iff_eq]
  rw [← Channels.greatest, ← Channels.least, ← saturationOf, clamp_eq_self saturated.le most,
    clamp_eq_self (by linarith) (by linarith)]
  congr 4
  rw [Channels.sector]
  split
  · ring
  · split
    · ring
    · ring

/-- Where neither red nor green is the greatest channel, blue is. -/
theorem Channels.blue_eq_greatest (red : c.red ≠ c.greatest) (green : c.green ≠ c.greatest) :
    c.blue = c.greatest := by
  rcases max_choice c.red (max c.green c.blue) with most | most
  · exact absurd most.symm red
  · rcases max_choice c.green c.blue with other | other
    · exact absurd (most.trans other).symm green
    · exact (most.trans other).symm

/-- The channels of the sector of the greatest channel are those of the color. The other two channels are
taken in the order of the circle, red, green, blue and red again. -/
theorem channels_of_sector (spread : c.least < c.greatest) (n : ℤ) :
    hueChannel c.least c.greatest (c.sector + 6 * n + 2) = c.red ∧
      hueChannel c.least c.greatest (c.sector + 6 * n) = c.green ∧
      hueChannel c.least c.greatest (c.sector + 6 * n - 2) = c.blue := by
  obtain ⟨red, green, blue⟩ := c.le_greatest
  generalize given : c.sector = sector
  rw [Channels.sector] at given
  have turned {x y v : Rat} (known : hueChannel c.least c.greatest y = v) (same : x = y) :
      hueChannel c.least c.greatest x = v := same ▸ known
  split at given
  · next top =>
    have bottom : c.least = min c.green c.blue := min_eq_right (min_le_of_left_le (top ▸ green))
    have sectors := hueChannel_sector bottom green blue spread given.symm
    rw [top]
    exact ⟨turned (sectors n).1 (by ring), (sectors n).2.1,
      turned (sectors (n - 1)).2.2 (by push_cast; ring)⟩
  · next notRed =>
    split at given
    · next top =>
      have bottom : c.least = min c.blue c.red := by
        rw [Channels.least, min_left_comm, min_comm c.blue]
        exact min_eq_right (min_le_of_left_le (top ▸ red))
      have sectors := hueChannel_sector bottom blue red spread rfl
      rw [← given, top]
      exact ⟨turned (sectors n).2.2 (by ring), turned (sectors n).1 (by ring),
        turned (sectors n).2.1 (by ring)⟩
    · next notGreen =>
      have top := Channels.blue_eq_greatest notRed notGreen
      have bottom : c.least = min c.red c.green := by
        rw [Channels.least, ← min_assoc]
        exact min_eq_left (min_le_of_left_le (top ▸ red))
      have sectors := hueChannel_sector bottom red green spread rfl
      rw [← given, top]
      exact ⟨turned (sectors (n + 1)).2.1 (by push_cast; ring), turned (sectors n).2.2 (by ring),
        turned (sectors n).1 (by ring)⟩

/-- A color between black and white comes back from hue, saturation and lightness. -/
theorem toChannels_toHsl (unit : c.InUnit) : c.toHsl.toChannels = c := by
  obtain ⟨black, order, white⟩ := unit.levels
  rcases order.eq_or_lt with gray | spread
  · rw [toHsl_of_gray unit gray.symm]
    exact toChannels_of_gray unit gray.symm
  · rw [toHsl_of_spread unit spread, toChannels_of_levels _ black spread white]
    obtain ⟨n, turns⟩ := exists_turns c.sector
    obtain ⟨red, green, blue⟩ := channels_of_sector spread n
    rw [turns, red, green, blue]

theorem inUnit_toChannels (c : Rgb) : (c.toChannels : Channels Rat).InUnit := by
  have channel (b : UInt8) : 0 ≤ (Scalar.ofByte b : Rat) / 255 ∧ (Scalar.ofByte b : Rat) / 255 ≤ 1 := by
    have small : (b.toNat : Rat) ≤ 255 := by exact_mod_cast Nat.le_of_lt_succ b.toNat_lt
    change 0 ≤ (b.toNat : Rat) / 255 ∧ (b.toNat : Rat) / 255 ≤ 1
    constructor
    · positivity
    · rw [div_le_one (by norm_num)]
      exact small
  exact ⟨channel c.red, channel c.green, channel c.blue⟩

/-- A color comes back from hue, saturation and lightness byte by byte. -/
theorem hslToRgb_rgbToHsl (c : Rgb) : hslToRgb (rgbToHsl c : Hsl Rat) = c := by
  have percent (x : Rat) : x * 100 / 100 = x := by ring
  rw [hslToRgb, rgbToHsl, percent, percent, toChannels_toHsl (inUnit_toChannels c), toRgb_toChannels]

end UtilityCss.Color
