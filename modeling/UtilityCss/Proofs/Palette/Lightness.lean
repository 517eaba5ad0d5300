import Mathlib.Order.Monotone.Basic
import Mathlib.Tactic.GCongr
import UtilityCss.Palette.Shade
import UtilityCss.Proofs.Color.Scalar

/-!
# Lightness along a ramp

Over the rationals a ramp gets darker from step to step, unless its base color is lighter than the ceiling
of the lighter shades. The ceiling then pulls them below the base. There is no floor on the other side:
with a small factor the last shades of a ramp would be darker than black.
-/
namespace UtilityCss.Palette

open UtilityCss.Color

/-- Factors that may divide. -/
structure Factors.Positive (f : Factors Rat) : Prop where
  lighterLightness : 0 < f.lighterLightness
  lighterSaturation : 0 < f.lighterSaturation
  darkerLightness : 0 < f.darkerLightness
  darkerSaturation : 0 < f.darkerSaturation

variable {f : Factors Rat} {l : Rat} {i : Nat}

/-! ## The two sides of the base color -/

theorem shadeLightness_base (f : Factors Rat) (l : Rat) : shadeLightness f baseOrdinal l = l := by
  simp [shadeLightness]

theorem shadeLightness_lighter (side : i < baseOrdinal) :
    shadeLightness f i l =
      min (l + (98 - l) * (((baseOrdinal - i : Nat) : Rat) / f.lighterLightness)) 98 := by
  rw [shadeLightness, if_pos side, lesser_eq_min]

/-- On the darker side the formula holds for the base color too. -/
theorem shadeLightness_darker (side : baseOrdinal ≤ i) :
    shadeLightness f i l = l * (1 - ((i - baseOrdinal : Nat) : Rat) / f.darkerLightness) := by
  rcases side.eq_or_lt with rfl | side
  · simp [shadeLightness]
  · rw [shadeLightness, if_neg side.not_gt, if_pos side]

theorem shadeLightness_le_ceiling (side : i < baseOrdinal) : shadeLightness f i l ≤ 98 := by
  rw [shadeLightness_lighter side]
  exact min_le_right _ _

/-- Under the ceiling the formula of the lighter side holds for the base color too. -/
theorem shadeLightness_of_le_ceiling (light : l ≤ 98) (side : i ≤ baseOrdinal) :
    shadeLightness f i l =
      min (l + (98 - l) * (((baseOrdinal - i : Nat) : Rat) / f.lighterLightness)) 98 := by
  rcases side.eq_or_lt with rfl | side
  · simp [shadeLightness, light]
  · exact shadeLightness_lighter side

/-! ## From step to step -/

/-- More steps are a greater part of the way. -/
theorem part_mono {m n : Nat} {factor : Rat} (positive : 0 < factor) (more : m ≤ n) :
    (m : Rat) / factor ≤ n / factor := by
  gcongr

/-- The next shade is no lighter: in front of the base color less is added, behind it more is taken. -/
theorem shadeLightness_succ_le (positive : f.Positive) (black : 0 ≤ l) (light : l ≤ 98) (i : Nat) :
    shadeLightness f (i + 1) l ≤ shadeLightness f i l := by
  rcases Nat.lt_or_ge i baseOrdinal with side | side
  · have nearer := part_mono positive.lighterLightness (by omega : baseOrdinal - (i + 1) ≤ baseOrdinal - i)
    have room : 0 ≤ 98 - l := by linarith
    rw [shadeLightness_of_le_ceiling light side, shadeLightness_of_le_ceiling light side.le]
    apply min_le_min_right
    linarith [mul_le_mul_of_nonneg_left nearer room]
  · have farther := part_mono positive.darkerLightness (by omega : i - baseOrdinal ≤ i + 1 - baseOrdinal)
    rw [shadeLightness_darker (by omega), shadeLightness_darker side]
    apply mul_le_mul_of_nonneg_left _ black
    linarith

theorem antitone_shadeLightness (positive : f.Positive) (black : 0 ≤ l) (light : l ≤ 98) :
    Antitone fun i => shadeLightness f i l :=
  antitone_nat_of_succ_le (shadeLightness_succ_le positive black light)

/-- A base color lighter than the ceiling is lighter than the shade in front of it. -/
theorem le_ceiling_of_le_shadeLightness (falls : shadeLightness f 5 l ≤ shadeLightness f 4 l) :
    l ≤ 98 := by
  calc l = shadeLightness f 5 l := (shadeLightness_base f l).symm
    _ ≤ shadeLightness f 4 l := falls
    _ ≤ 98 := shadeLightness_le_ceiling (by decide)

/-- A darker shade is no darker than black if the base color is black or the shade is near enough. -/
theorem shadeLightness_nonneg_iff (positive : 0 < f.darkerLightness) (black : 0 ≤ l)
    (side : baseOrdinal ≤ i) :
    0 ≤ shadeLightness f i l ↔ l = 0 ∨ ((i - baseOrdinal : Nat) : Rat) ≤ f.darkerLightness := by
  rw [shadeLightness_darker side, ← div_le_one positive]
  rcases black.eq_or_lt with rfl | some
  · simp
  · rw [mul_nonneg_iff_of_pos_left some, sub_nonneg]
    exact ⟨Or.inr, fun near => near.resolve_left some.ne'⟩

/-- The lightness falls along a ramp exactly if the base color is under the ceiling, under which all lighter
shades are. All darker shades are no darker than black exactly if the base color is black or the whole
darker side is near enough. -/
theorem lightness_falls_iff (factors : Factors Rat) (neutral : Bool) (base : Hsl Rat)
    (positive : factors.Positive) (black : 0 ≤ base.lightness) :
    let lightness := fun i => (shade factors neutral i base).lightness
    ((∀ i j, i ≤ j → j ≤ 10 → lightness j ≤ lightness i) ↔ base.lightness ≤ 98) ∧
      lightness 5 = base.lightness ∧
      (∀ i, i < 5 → lightness i ≤ 98) ∧
      ((∀ i, 5 < i → i ≤ 10 → 0 ≤ lightness i) ↔
        base.lightness = 0 ∨ 5 ≤ factors.darkerLightness) := by
  refine ⟨⟨?_, ?_⟩, shadeLightness_base factors _, ?_, ⟨?_, ?_⟩⟩
  · intro falls
    exact le_ceiling_of_le_shadeLightness (falls 4 5 (by omega) (by omega))
  · intro light i j order _
    exact antitone_shadeLightness positive black light order
  · intro i side
    exact shadeLightness_le_ceiling side
  · intro least
    have last := least 10 (by omega) le_rfl
    exact (shadeLightness_nonneg_iff positive.darkerLightness black (by decide)).mp last
  · intro far i side last
    refine (shadeLightness_nonneg_iff positive.darkerLightness black side.le).mpr ?_
    have near : ((i - baseOrdinal : Nat) : Rat) ≤ 5 := by
      exact_mod_cast (by unfold baseOrdinal; omega : i - baseOrdinal ≤ 5)
    exact far.imp_right near.trans

/-- A blue that is used with the usual factors. -/
theorem lightness_falls_iff_for_blue :
    let lightness := fun i => (shade ⟨9 / 2, 10, 13 / 2, 7⟩ false i ⟨217, 91, 60⟩ : Hsl Rat).lightness
    (∀ i j, i ≤ j → j ≤ 10 → lightness j ≤ lightness i) ∧ ∀ i, 5 < i → i ≤ 10 → 0 ≤ lightness i := by
  have positive : (⟨9 / 2, 10, 13 / 2, 7⟩ : Factors Rat).Positive := by constructor <;> norm_num
  obtain ⟨falls, -, -, least⟩ := lightness_falls_iff _ false ⟨217, 91, 60⟩ positive (by norm_num)
  exact ⟨falls.mpr (by norm_num), least.mpr (Or.inr (by norm_num))⟩

end UtilityCss.Palette
