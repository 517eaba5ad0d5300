import UtilityCss.Proofs.Palette.Modes

/-!
# Dark palettes mirror light ones

A dark palette has the shades of the light one in the same order under the reversed steps. Both ramps are
made of one list of shades, which depends on the base color and the factors alone: all have the hue of the
base color, the base color itself is in the middle, and neutral colors keep their saturation. What refers to
a variable by name does not mirror its value; the variable does.
-/
namespace UtilityCss.Palette

open UtilityCss.Color

/-! ## The shades of a ramp -/

/-- The shades of a base color, the lightest first. -/
def rampOf (factors : Factors Float32) (base : Hsl Float32) : List (Hsl Float32) :=
  (List.range 11).map fun ordinal => shade factors (isNeutral base) ordinal base

/-- What a ramp keeps of its base color. -/
structure IsRampOf (base : Hsl Float32) (shades : List (Hsl Float32)) : Prop where
  count : shades.length = 11
  middle : shades[5]? = some base
  hue : ∀ hsl ∈ shades, hsl.hue = base.hue
  neutral : base.saturation < 10 → ∀ hsl ∈ shades, hsl.saturation = base.saturation

theorem isRampOf_rampOf (factors : Factors Float32) (base : Hsl Float32) :
    IsRampOf base (rampOf factors base) where
  count := by rw [rampOf, List.length_map, List.length_range]
  middle := by
    rw [rampOf, List.getElem?_map, List.getElem?_range (by decide), Option.map_some]
    exact congrArg some (shade_base factors (isNeutral base) base)
  hue := by
    intro hsl inside
    obtain ⟨ordinal, -, rfl⟩ := List.mem_map.mp inside
    rfl
  neutral := by
    intro low hsl inside
    obtain ⟨ordinal, -, rfl⟩ := List.mem_map.mp inside
    have neutral : isNeutral base = true := decide_eq_true low
    rw [shade, neutral, if_pos rfl]

/-- The steps of the walk take the shades in turn. -/
theorem colorShades_eq_zip (factors : Factors Float32) (dark : Bool) (rgb : Rgb) :
    colorShades factors dark rgb = (Step.walk dark).zip (rampOf factors (rgbToHsl rgb)) := by
  rw [colorShades, List.zipIdx_eq_zip_range', length_walk, rampOf, List.zip_map_right,
    List.range_eq_range']
  rfl

theorem listedShades_of_read {factors : Factors Float32} {hex : String} {rgb : Rgb} (dark : Bool)
    (read : hexToRgb hex = some rgb) :
    listedShades factors dark hex = (Step.walk dark).zip (rampOf factors (rgbToHsl rgb)) := by
  rw [listedShades, read, Option.map_some, Option.getD_some, colorShades_eq_zip]

/-- The order of the steps does not change the sequence of shades. -/
theorem map_snd_listedShades (factors : Factors Float32) (hex : String) :
    (listedShades factors true hex).map Prod.snd = (listedShades factors false hex).map Prod.snd := by
  cases read : hexToRgb hex with
  | none => simp [listedShades, read]
  | some rgb =>
    have count := (isRampOf_rampOf factors (rgbToHsl rgb)).count
    have all (dark : Bool) : (listedShades factors dark hex).map Prod.snd =
        rampOf factors (rgbToHsl rgb) := by
      rw [listedShades_of_read dark read]
      exact List.map_snd_zip (by rw [count, length_walk])
    rw [all, all]

/-- At each place of the dark walk stands the step that mirrors the one of the light walk. -/
theorem getElem?_walk_dark {i : Nat} (inside : i < 11) :
    (Step.walk true)[i]? = Step.all[10 - i]? :=
  List.getElem?_reverse inside

/-! ## The mirror -/

/-- A palette with a color that cannot be read fails, whatever its form is and whether it is dark. -/
theorem exists_error_of_not_readable {options : Options}
    (unreadable : ¬ ∀ color ∈ options.colors.toList, Readable options.factors color.2) :
    ∃ e, ∀ mode dark, (generate mode { options with dark := dark }).result = .error e := by
  rw [← findSome?_rampFault?_eq_none_iff] at unreadable
  obtain ⟨e, fault⟩ := Option.ne_none_iff_exists'.mp unreadable
  refine ⟨e, fun mode dark => ?_⟩
  rw [result_generate, result_shades]
  dsimp only
  rw [fault]
  rfl

/-- Unless the form refers to names, the dark palette has the values of the light one in their order. -/
theorem map_snd_givenValues {mode : OutputMode} (shown : mode ≠ .reference) {options : Options}
    (readable : ∀ color ∈ options.colors.toList, Readable options.factors color.2) :
    (givenValues mode { options with dark := true }).toList.map Prod.snd =
      (givenValues mode { options with dark := false }).toList.map Prod.snd := by
  have values (dark : Bool) :
      (givenValues mode { options with dark := dark }).toList.map Prod.snd =
        options.colors.toList.flatMap fun color =>
          ((listedShades options.factors dark color.2).map Prod.snd).map fun hsl =>
            mode.valueOf "" (shadeText hsl) := by
    rw [@toList_givenValues { options with dark := dark } mode readable, paletteEntries, List.map_map,
      List.map_flatMap]
    refine List.flatMap_congr fun color _ => ?_
    rw [List.map_map, List.map_map]
    exact List.map_congr_left fun shade _ => OutputMode.valueOf_eq shown _ _ _
  rw [values, values]
  simp only [map_snd_listedShades]

/-- The ramps of a color in both directions, and what is given to their steps. -/
theorem exists_ramps {options : Options}
    (readable : ∀ color ∈ options.colors.toList, Readable options.factors color.2)
    {color : String × String} (known : color ∈ options.colors.toList) :
    ∃ base shades, (hexToRgb color.2).map rgbToHsl = some base ∧ IsRampOf base shades ∧
      ∀ dark,
        (ramp options.factors dark color.1 color.2).result = .ok ((Step.walk dark).zip shades) ∧
        ((Step.walk dark).zip shades)[5]? = some (.s500, base) ∧
        ∀ mode step hsl, (step, hsl) ∈ (Step.walk dark).zip shades →
          (givenValues mode { options with dark := dark }).get?
              (options.namePrefix ++ shadeName color.1 step) =
            some (mode.valueOf (options.namePrefix ++ shadeName color.1 step) (shadeText hsl)) := by
  obtain ⟨rgb, read⟩ := Option.isSome_iff_exists.mp (readable color known).2
  have kept := isRampOf_rampOf options.factors (rgbToHsl rgb)
  refine ⟨rgbToHsl rgb, rampOf options.factors (rgbToHsl rgb), by rw [read]; rfl, kept, ?_⟩
  intro dark
  rw [← listedShades_of_read dark read]
  refine ⟨ramp_ok_iff.mpr ⟨readable color known, rfl⟩, ?middle, fun mode step hsl listed => ?given⟩
  case middle =>
    rw [listedShades_of_read dark read]
    refine List.getElem?_zip_eq_some.mpr ⟨?_, kept.middle⟩
    cases dark <;> rfl
  case given =>
    exact @get?_givenValues { options with dark := dark } mode readable color.1 color.2 known _ _ listed

/-- A step of the light palette and the mirrored step of the dark one are given the same value. -/
theorem exists_mirrored_value {mode : OutputMode} (shown : mode ≠ .reference) {options : Options}
    (readable : ∀ color ∈ options.colors.toList, Readable options.factors color.2) {color : String}
    (known : color ∈ options.colors.keys) {i : Nat} {step mirrored : Step}
    (at_i : Step.all[i]? = some step) (opposite : Step.all[10 - i]? = some mirrored) :
    ∃ value,
      (givenValues mode { options with dark := true }).get?
        (options.namePrefix ++ shadeName color mirrored) = some value ∧
      (givenValues mode { options with dark := false }).get?
        (options.namePrefix ++ shadeName color step) = some value := by
  obtain ⟨entry, listed, rfl⟩ := List.mem_map.mp known
  obtain ⟨base, shades, -, kept, ramps⟩ := exists_ramps readable listed
  have inside : i < 11 := (List.getElem?_eq_some_iff.mp at_i).1
  obtain ⟨hsl, shade⟩ : ∃ hsl, shades[i]? = some hsl :=
    ⟨_, List.getElem?_eq_getElem (by rw [kept.count]; exact inside)⟩
  have light : (step, hsl) ∈ (Step.walk false).zip shades :=
    List.mem_of_getElem? (List.getElem?_zip_eq_some.mpr ⟨at_i, shade⟩)
  have dark : (mirrored, hsl) ∈ (Step.walk true).zip shades := by
    rw [← getElem?_walk_dark inside] at opposite
    exact List.mem_of_getElem? (List.getElem?_zip_eq_some.mpr ⟨opposite, shade⟩)
  refine ⟨mode.valueOf "" (shadeText hsl), ?_, ?_⟩
  · rw [(ramps true).2.2 mode mirrored hsl dark]
    exact congrArg some (OutputMode.valueOf_eq shown _ _ _)
  · rw [(ramps false).2.2 mode step hsl light]
    exact congrArg some (OutputMode.valueOf_eq shown _ _ _)

/-- References name their variable and nothing else. -/
theorem reference_of_mem_givenValues {options : Options}
    (readable : ∀ color ∈ options.colors.toList, Readable options.factors color.2)
    {entry : String × String} (inside : entry ∈ (givenValues .reference options).toList) :
    entry.2 = "var(--" ++ entry.1 ++ ")" := by
  rw [toList_givenValues .reference readable] at inside
  obtain ⟨⟨name, channels⟩, -, rfl⟩ := List.mem_map.mp inside
  rfl

theorem get?_references {options : Options}
    (readable : ∀ color ∈ options.colors.toList, Readable options.factors color.2) {name : String}
    (known : name ∈ (givenValues .reference options).keys) :
    (givenValues .reference options).get? name = some ("var(--" ++ name ++ ")") := by
  obtain ⟨entry, inside, rfl⟩ := List.mem_map.mp known
  rw [OrderedMap.get?_eq_some_iff, ← reference_of_mem_givenValues readable inside]
  exact inside

/-- If some color cannot be read, a palette fails in both directions with one error. Otherwise the dark
palette mirrors the light one: colors keep their order, each color's steps are reversed, and the values are
the same in the same order, so that a step and its mirror image have one value. References, which show no
color, keep to their own names instead. In both directions a color's ramp has the same shades, with the
base color itself at step 500, the hue of the base color everywhere, and its saturation too if it is
neutral. -/
theorem dark_palette_mirrors_light (mode : OutputMode) (options : Options) :
    ((∃ color ∈ options.colors.toList, ¬ Readable options.factors color.2) ∧
      ∃ e, ∀ dark, (generate mode { options with dark := dark }).result = .error e) ∨
    ∃ given : Bool → OrderedMap String String,
      (∀ dark, (generate mode { options with dark := dark }).result = .ok (mode.write (given dark)) ∧
        (given dark).keys = shadeNames options.namePrefix dark options.colors.keys) ∧
      (mode ≠ .reference →
        (given true).toList.map Prod.snd = (given false).toList.map Prod.snd ∧
        ∀ color ∈ options.colors.keys, ∀ i step mirrored,
          Step.all[i]? = some step → Step.all[10 - i]? = some mirrored → ∃ value,
            (given true).get? (options.namePrefix ++ shadeName color mirrored) = some value ∧
            (given false).get? (options.namePrefix ++ shadeName color step) = some value) ∧
      (mode = .reference →
        ∀ dark, ∀ entry ∈ (given dark).toList, entry.2 = "var(--" ++ entry.1 ++ ")") ∧
      ∀ color ∈ options.colors.toList, ∃ base shades,
        (hexToRgb color.2).map rgbToHsl = some base ∧ IsRampOf base shades ∧
        ∀ dark,
          (ramp options.factors dark color.1 color.2).result = .ok ((Step.walk dark).zip shades) ∧
          ((Step.walk dark).zip shades)[5]? = some (.s500, base) ∧
          ∀ step hsl, (step, hsl) ∈ (Step.walk dark).zip shades →
            (given dark).get? (options.namePrefix ++ shadeName color.1 step) =
              some (mode.valueOf (options.namePrefix ++ shadeName color.1 step) (shadeText hsl)) := by
  by_cases readable : ∀ color ∈ options.colors.toList, Readable options.factors color.2
  · right
    refine ⟨fun dark => givenValues mode { options with dark := dark }, ?made, ?mirrored, ?references,
      ?ramps⟩
    case made =>
      intro dark
      exact ⟨@result_generate_of_readable { options with dark := dark } mode readable,
        @keys_givenValues { options with dark := dark } mode readable⟩
    case mirrored =>
      intro shown
      refine ⟨map_snd_givenValues shown readable, ?_⟩
      intro color known i step mirrored at_i opposite
      exact exists_mirrored_value shown readable known at_i opposite
    case references =>
      rintro rfl dark entry inside
      exact @reference_of_mem_givenValues { options with dark := dark } readable entry inside
    case ramps =>
      intro color known
      obtain ⟨base, shades, read, kept, ramps⟩ := exists_ramps readable known
      refine ⟨base, shades, read, kept, fun dark => ?_⟩
      obtain ⟨made, middle, given⟩ := ramps dark
      exact ⟨made, middle, given mode⟩
  · left
    obtain ⟨e, fails⟩ := exists_error_of_not_readable readable
    refine ⟨?_, e, fails mode⟩
    simpa using readable

/-- Black as the only color. -/
def onlyBlack : Options where
  colors := .ofList [("c", "#000")]

/-- The darkest step of a dark palette refers to its own variable, not to that of the lightest step. -/
theorem reference_is_not_mirrored :
    ∃ dark light,
      (generate .reference { onlyBlack with dark := true }).result = .ok (.map dark) ∧
      (generate .reference { onlyBlack with dark := false }).result = .ok (.map light) ∧
      dark.get? "c-950" = some "var(--c-950)" ∧ light.get? "c-50" = some "var(--c-50)" ∧
      dark.get? "c-950" ≠ light.get? "c-50" := by
  have readable : ∀ color ∈ onlyBlack.colors.toList, Readable onlyBlack.factors color.2 := by
    have listed : onlyBlack.colors.toList = [("c", "#000")] := by decide
    rw [listed, List.forall_mem_singleton]
    exact ⟨by decide +kernel, by decide +kernel⟩
  have value (turned : Bool) (step : Step) :
      (givenValues .reference { onlyBlack with dark := turned }).get? (shadeName "c" step) =
        some ("var(--" ++ shadeName "c" step ++ ")") := by
    refine @get?_references { onlyBlack with dark := turned } readable _ ?_
    rw [@keys_givenValues { onlyBlack with dark := turned } .reference readable]
    cases turned <;> cases step <;> decide
  refine ⟨_, _, @result_generate_of_readable { onlyBlack with dark := true } .reference readable,
    @result_generate_of_readable { onlyBlack with dark := false } .reference readable,
    value true .s950, value false .s50, ?_⟩
  intro same
  have same := (value true .s950).symm.trans (same.trans (value false .s50))
  exact absurd same (by decide)

end UtilityCss.Palette
