import Mathlib.Algebra.Order.Floor.Ring
import Mathlib.Algebra.Order.Round
import Mathlib.Data.Rat.Floor
import Mathlib.Tactic.FieldSimp
import Mathlib.Tactic.Linarith
import Mathlib.Tactic.LinearCombination
import Mathlib.Tactic.Ring
import UtilityCss.Color.Conversion

/-!
# Color formulas over the rationals

Read exactly, the operations of color formulas are those of an ordered field: the greater and the lesser of
two numbers, a range, the fractional part of a turn, and the byte nearest to a channel.
-/
namespace UtilityCss.Color

variable {x y low high p : Rat}

theorem greater_eq_max (x y : Rat) : greater x y = max x y := by
  rw [greater, beq_self_eq_true, if_pos rfl, max_def_lt]

theorem lesser_eq_min (x y : Rat) : lesser x y = min x y := by
  rw [lesser, beq_self_eq_true, if_pos rfl, min_comm, min_def_lt]

/-- A number in the range is held as it is. -/
theorem clamp_eq_self (least : low ≤ x) (most : x ≤ high) : clamp low high x = x := by
  rw [clamp, if_neg (not_lt.mpr least), if_neg (not_lt.mpr most)]

theorem truncate_of_nonneg (h : 0 ≤ x) : truncate x = ⌊x⌋ := by
  rw [truncate, Rat.floor_def', Int.tdiv_eq_ediv_of_nonneg (Rat.num_nonneg.mpr h)]

theorem truncate_neg (x : Rat) : truncate (-x) = -truncate x := by
  rw [truncate, truncate, Rat.neg_num, Rat.neg_den, Int.neg_tdiv]

/-! ## Remainders -/

/-- A remainder is what is left of a number by multiples of the period: less than the period on either side
of zero, and on the side of the number. -/
theorem exists_remainder (positive : 0 < p) (x : Rat) :
    ∃ n : ℤ, Scalar.remainder x p = x - p * n ∧
      -p < Scalar.remainder x p ∧ Scalar.remainder x p < p ∧ (0 ≤ x → 0 ≤ Scalar.remainder x p) := by
  have whole : x = p * (x / p) := by field_simp
  refine ⟨truncate (x / p), rfl, ?_⟩
  have value : Scalar.remainder x p = p * (x / p - truncate (x / p)) := by
    rw [mul_sub, ← whole]
    rfl
  rw [value]
  rcases le_total 0 (x / p) with side | side
  · have least := Int.floor_le (x / p)
    have less := Int.lt_floor_add_one (x / p)
    rw [truncate_of_nonneg side]
    refine ⟨?_, ?_, fun _ => ?_⟩ <;> nlinarith
  · have least := Int.floor_le (-(x / p))
    have less := Int.lt_floor_add_one (-(x / p))
    have mirrored := truncate_neg (-(x / p))
    rw [neg_neg, truncate_of_nonneg (neg_nonneg.mpr side)] at mirrored
    rw [mirrored, Int.cast_neg]
    refine ⟨by nlinarith, by nlinarith, fun nonneg => ?_⟩
    have zero : x / p = 0 := le_antisymm side (div_nonneg nonneg positive.le)
    simp [zero]

theorem exists_wrapTo (positive : 0 < p) (x : Rat) :
    ∃ n : ℤ, wrapTo p x = x - p * n ∧ 0 ≤ wrapTo p x ∧ wrapTo p x < p := by
  obtain ⟨n, first, above, -, -⟩ := exists_remainder positive x
  obtain ⟨m, second, -, less, least⟩ := exists_remainder positive (Scalar.remainder x p + p)
  refine ⟨n + m - 1, ?_, least (by linarith), less⟩
  rw [wrapTo, second, first]
  push_cast
  ring

/-- The number in the period is found behind any number of turns. -/
theorem wrapTo_eq (n : ℤ) (least : 0 ≤ y) (less : y < p) : wrapTo p (y + p * n) = y := by
  have positive : 0 < p := least.trans_lt less
  obtain ⟨m, value, least', less'⟩ := exists_wrapTo positive (y + p * n)
  have turns : (n : Rat) - m = 0 := by
    have above : ((n - m : ℤ) : Rat) < 1 := by
      push_cast
      nlinarith
    have below : (-1 : Rat) < ((n - m : ℤ) : Rat) := by
      push_cast
      nlinarith
    have zero : n - m = 0 := by
      have above : n - m < 1 := by exact_mod_cast above
      have below : -1 < n - m := by exact_mod_cast below
      omega
    exact_mod_cast zero
  rw [value]
  linear_combination p * turns

/-! ## Bytes -/

/-- A byte is the one nearest to its own channel. -/
theorem channelByte_ofByte (b : UInt8) : channelByte ((Scalar.ofByte b : Rat) / 255) = b := by
  have whole : (Scalar.ofByte b : Rat) / 255 * 255 + 1 / 2 = b.toNat + 1 / 2 := by
    change (b.toNat : Rat) / 255 * 255 + 1 / 2 = b.toNat + 1 / 2
    ring
  have floor : ((b.toNat : Rat) + 1 / 2).floor = b.toNat := by
    change ⌊(b.toNat : Rat) + 1 / 2⌋ = (b.toNat : ℤ)
    rw [Int.floor_eq_iff]
    constructor
    · push_cast
      linarith
    · push_cast
      linarith
  have small := b.toNat_lt
  rw [channelByte, whole]
  change UInt8.ofNat (min 255 ((b.toNat : Rat) + 1 / 2).floor.toNat) = b
  rw [floor, Int.toNat_natCast, min_eq_right (by omega), UInt8.ofNat_toNat]

/-- No byte is lost between zero and one. -/
theorem toRgb_toChannels (c : Rgb) : (c.toChannels : Channels Rat).toRgb = c := by
  rw [Rgb.toChannels, Channels.toRgb, channelByte_ofByte, channelByte_ofByte, channelByte_ofByte]

end UtilityCss.Color
