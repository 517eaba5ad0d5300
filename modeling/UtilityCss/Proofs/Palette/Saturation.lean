import UtilityCss.Proofs.Palette.Lightness

/-!
# Saturation along a ramp

Over the rationals a ramp gets more saturated from step to step. The lighter shades have a floor and the
darker ones a cap. The floor is the saturation under which a color is neutral, so it never lifts a shade above
its base color; a neutral color, which it would lift, keeps its saturation.
-/
namespace UtilityCss.Palette

open UtilityCss.Color

variable {f : Factors Rat} {s : Rat} {i : Nat}

/-! ## The two sides of the base color -/

theorem shadeSaturation_base (f : Factors Rat) (s : Rat) : shadeSaturation f baseOrdinal s = s := by
  simp [shadeSaturation]

theorem shadeSaturation_lighter (side : i < baseOrdinal) :
    shadeSaturation f i s =
      max (s - s * (((baseOrdinal - i : Nat) : Rat) / f.lighterSaturation)) 10 := by
  rw [shadeSaturation, if_pos side, greater_eq_max]

/-- Above the floor the formula of the lighter side holds for the base color too. -/
theorem shadeSaturation_of_floor_le (vivid : 10 ≤ s) (side : i ≤ baseOrdinal) :
    shadeSaturation f i s =
      max (s - s * (((baseOrdinal - i : Nat) : Rat) / f.lighterSaturation)) 10 := by
  rcases side.eq_or_lt with rfl | side
  · simp [shadeSaturation, vivid]
  · exact shadeSaturation_lighter side

/-- Under the cap the formula of the darker side holds for the base color too. -/
theorem shadeSaturation_of_le_cap (full : s ≤ 100) (side : baseOrdinal ≤ i) :
    shadeSaturation f i s =
      min (s + (100 - s) * (((i - baseOrdinal : Nat) : Rat) / f.darkerSaturation)) 100 := by
  rcases side.eq_or_lt with rfl | side
  · simp [shadeSaturation, full]
  · rw [shadeSaturation, if_neg side.not_gt, if_pos side, lesser_eq_min]

theorem floor_le_shadeSaturation (side : i < baseOrdinal) : 10 ≤ shadeSaturation f i s := by
  rw [shadeSaturation_lighter side]
  apply le_max_right

/-! ## From step to step -/

/-- The next shade is no less saturated: in front of the base color less is taken, behind it more is
added. -/
theorem shadeSaturation_le_succ (positive : f.Positive) (vivid : 10 ≤ s) (full : s ≤ 100) (i : Nat) :
    shadeSaturation f i s ≤ shadeSaturation f (i + 1) s := by
  -- The base color fits the formulas of both sides, so a step is on one side or on the other.
  rcases Nat.lt_or_ge i baseOrdinal with side | side
  · have nearer := part_mono positive.lighterSaturation
      (by omega : baseOrdinal - (i + 1) ≤ baseOrdinal - i)
    have some : 0 ≤ s := by linarith
    rw [shadeSaturation_of_floor_le vivid side.le, shadeSaturation_of_floor_le vivid side]
    apply max_le_max_right
    linarith [mul_le_mul_of_nonneg_left nearer some]
  · have farther := part_mono positive.darkerSaturation
      (by omega : i - baseOrdinal ≤ i + 1 - baseOrdinal)
    have room : 0 ≤ 100 - s := by linarith
    rw [shadeSaturation_of_le_cap full side, shadeSaturation_of_le_cap full (by omega)]
    apply min_le_min_right
    linarith [mul_le_mul_of_nonneg_left farther room]

theorem monotone_shadeSaturation (positive : f.Positive) (vivid : 10 ≤ s) (full : s ≤ 100) :
    Monotone fun i => shadeSaturation f i s :=
  monotone_nat_of_le_succ (shadeSaturation_le_succ positive vivid full)

/-- All shades stay between the floor and the cap, because the first is above the floor and late ones are
under the cap. -/
theorem shadeSaturation_mem_Icc (positive : f.Positive) (vivid : 10 ≤ s) (full : s ≤ 100) (i : Nat) :
    shadeSaturation f i s ∈ Set.Icc 10 100 := by
  have rises := monotone_shadeSaturation positive vivid full
  constructor
  · calc (10 : Rat) ≤ shadeSaturation f 0 s := floor_le_shadeSaturation (by decide)
      _ ≤ shadeSaturation f i s := rises (Nat.zero_le i)
  · calc shadeSaturation f i s ≤ shadeSaturation f (i + baseOrdinal) s := rises (Nat.le_add_right _ _)
      _ ≤ 100 := by
        rw [shadeSaturation_of_le_cap full (Nat.le_add_left _ _)]
        apply min_le_right

/-- The floor lifts a color under it above itself. -/
theorem floor_le_of_shadeSaturation_le (rises : shadeSaturation f 4 s ≤ shadeSaturation f 5 s) :
    10 ≤ s := by
  calc (10 : Rat) ≤ shadeSaturation f 4 s := floor_le_shadeSaturation (by decide)
    _ ≤ shadeSaturation f 5 s := rises
    _ = s := shadeSaturation_base f s

theorem saturation_shade (f : Factors Rat) (i : Nat) (base : Hsl Rat) :
    (shade f (isNeutral base) i base).saturation =
      if base.saturation < 10 then base.saturation else shadeSaturation f i base.saturation := by
  simp [shade, isNeutral]

/-- The saturation rises along a ramp. The shades of a color that is not neutral stay between the floor and
the cap, the lighter ones under their base color and the darker ones above it; those of a neutral color have
its saturation. If no color were taken as neutral, the saturation would rise exactly if it is no less than the
floor. -/
theorem saturation_rises (factors : Factors Rat) (base : Hsl Rat) (positive : factors.Positive)
    (full : base.saturation ≤ 100) :
    let saturation := fun i => (shade factors (isNeutral base) i base).saturation
    (∀ i j, i ≤ j → j ≤ 10 → saturation i ≤ saturation j) ∧
      (10 ≤ base.saturation → ∀ i, i ≤ 10 →
        (10 ≤ saturation i ∧ saturation i ≤ 100) ∧
          (i < 5 → saturation i ≤ base.saturation) ∧ (5 < i → base.saturation ≤ saturation i)) ∧
      (base.saturation < 10 → ∀ i, i ≤ 10 → saturation i = base.saturation) ∧
      ((∀ i j, i ≤ j → j ≤ 10 →
          (shade factors false i base).saturation ≤ (shade factors false j base).saturation) ↔
        10 ≤ base.saturation) := by
  have start := shadeSaturation_base factors base.saturation
  simp only [saturation_shade]
  refine ⟨?_, ?_, ?_, ?_, ?_⟩
  · intro i j order _
    split
    · exact le_rfl
    · next vivid => exact monotone_shadeSaturation positive (not_lt.mp vivid) full order
  · intro vivid i _
    have rises := monotone_shadeSaturation positive vivid full
    rw [if_neg vivid.not_gt]
    refine ⟨shadeSaturation_mem_Icc positive vivid full i, ?_, ?_⟩
    · intro side
      exact (rises side.le).trans_eq start
    · intro side
      exact start.symm.trans_le (rises side.le)
  · intro neutral i _
    exact if_pos neutral
  · intro rises
    exact floor_le_of_shadeSaturation_le (rises 4 5 (by omega) (by omega))
  · intro vivid i j order _
    exact monotone_shadeSaturation positive vivid full order

/-- The floor holds a pale blue in its lightest shades, and a gray stays as it is. -/
theorem saturation_rises_for_blue_and_gray :
    let factors : Factors Rat := ⟨9 / 2, 2, 13 / 2, 7⟩
    let saturation := fun base : Hsl Rat => fun i => (shade factors (isNeutral base) i base).saturation
    (∀ i j, i ≤ j → j ≤ 10 → saturation ⟨217, 12, 60⟩ i ≤ saturation ⟨217, 12, 60⟩ j) ∧
      (10 ≤ saturation ⟨217, 12, 60⟩ 0 ∧ saturation ⟨217, 12, 60⟩ 0 ≤ 12) ∧
      saturation ⟨217, 9, 60⟩ 0 = 9 ∧ saturation ⟨217, 9, 60⟩ 10 = 9 := by
  intro factors saturation
  have positive : factors.Positive := by constructor <;> norm_num [factors]
  obtain ⟨rises, within, -, -⟩ :=
    saturation_rises factors ⟨217, 12, 60⟩ positive (by norm_num)
  obtain ⟨-, -, still, -⟩ :=
    saturation_rises factors ⟨217, 9, 60⟩ positive (by norm_num)
  obtain ⟨⟨least, -⟩, lighter, -⟩ := within (by norm_num) 0 (by omega)
  exact ⟨rises, ⟨least, lighter (by omega)⟩, still (by norm_num) 0 (by omega),
    still (by norm_num) 10 (by omega)⟩

end UtilityCss.Palette
