import Mathlib.Data.List.Flatten
import UtilityCss.Proofs.Color.RoundTrip
import UtilityCss.Proofs.Palette.Modes

/-!
# Palettes in exact numbers

The entries of a palette are written once for any numbers. In single precision they are the entries that
are emitted; over the rationals the laws of the formulas hold without rounding. The first of these laws is
that a palette keeps its base colors.
-/
namespace UtilityCss.Palette

open UtilityCss.Color

/-- A color that is known by its name has one text. -/
theorem hex_unique {colors : Colors} {name hex other : String} (known : (name, hex) ∈ colors.toList)
    (known' : (name, other) ∈ colors.toList) : hex = other :=
  congrArg Prod.snd (List.inj_on_of_nodup_map colors.distinct known known' rfl)

section
variable {α : Type} [Add α] [Sub α] [Mul α] [Div α] [∀ n, OfNat α n] [LT α] [DecidableLT α] [BEq α]
  [NatCast α] [Scalar α]

/-- The shades of a color along the walk. -/
def shadesOver (factors : Factors α) (dark : Bool) (rgb : Rgb) : List (Step × Hsl α) :=
  let base : Hsl α := rgbToHsl rgb
  (Step.walk dark).zipIdx.map fun (step, ordinal) =>
    (step, shade factors (isNeutral base) ordinal base)

/-- The entries of a palette, color after color, computed in the numbers of the factors. -/
def entriesOver (factors : Factors α) (options : Options) : List (String × String) :=
  options.colors.toList.flatMap fun (name, hex) =>
    (((hexToRgb hex).map (shadesOver factors options.dark)).getD []).map fun (step, hsl) =>
      (options.namePrefix ++ shadeName name step, (hslToRgb hsl).components)

/-- An entry is that of a shade of a color that can be read. -/
theorem mem_entriesOver {factors : Factors α} {options : Options} {entry : String × String} :
    entry ∈ entriesOver factors options ↔
      ∃ name hex, (name, hex) ∈ options.colors.toList ∧ ∃ rgb, hexToRgb hex = some rgb ∧
        ∃ step hsl, (step, hsl) ∈ shadesOver factors options.dark rgb ∧
          entry = (options.namePrefix ++ shadeName name step, (hslToRgb hsl).components) := by
  rw [entriesOver, List.mem_flatMap]
  constructor
  · rintro ⟨⟨name, hex⟩, known, inside⟩
    obtain ⟨⟨step, hsl⟩, listed, rfl⟩ := List.mem_map.mp inside
    cases read : hexToRgb hex with
    | none => simp [read] at listed
    | some rgb =>
      rw [read] at listed
      exact ⟨name, hex, known, rgb, read, step, hsl, listed, rfl⟩
  · rintro ⟨name, hex, known, rgb, read, step, hsl, listed, rfl⟩
    refine ⟨(name, hex), known, List.mem_map.mpr ⟨(step, hsl), ?_, rfl⟩⟩
    rw [read]
    exact listed

/-- In both directions the walk meets the step of the base color in its middle. -/
theorem zipIdx_walk_base (dark : Bool) (ordinal : Nat) :
    (Step.s500, ordinal) ∈ (Step.walk dark).zipIdx ↔ ordinal = baseOrdinal := by
  cases dark <;> simp [Step.walk, Step.all, baseOrdinal]

theorem mem_shadesOver_base {factors : Factors α} {dark : Bool} {rgb : Rgb} {hsl : Hsl α} :
    (Step.s500, hsl) ∈ shadesOver factors dark rgb ↔ hsl = rgbToHsl rgb := by
  rw [shadesOver, List.mem_map]
  constructor
  · rintro ⟨⟨step, ordinal⟩, walked, same⟩
    obtain ⟨rfl, rfl⟩ := Prod.mk.inj same
    rw [(zipIdx_walk_base dark ordinal).mp walked, shade_base]
  · rintro rfl
    exact ⟨(.s500, baseOrdinal), (zipIdx_walk_base dark _).mpr rfl,
      congrArg (Prod.mk Step.s500) (shade_base factors _ _)⟩

theorem map_fst_shadesOver (factors : Factors α) (dark : Bool) (rgb : Rgb) :
    (shadesOver factors dark rgb).map Prod.fst = Step.walk dark := by
  rw [shadesOver, List.map_map]
  exact List.zipIdx_map_fst 0 (Step.walk dark)

/-- Entries are named after the shades of the colors; a color that cannot be read has none. -/
theorem sublist_map_fst_entriesOver (factors : Factors α) (options : Options) :
    ((entriesOver factors options).map Prod.fst).Sublist
      (shadeNames options.namePrefix options.dark options.colors.keys) := by
  rw [entriesOver, shadeNames, OrderedMap.keys, List.map_flatMap, List.flatMap_map]
  refine List.Sublist.flatMap_right _ fun color _ => ?_
  dsimp only
  cases hexToRgb color.2 with
  | none => exact List.nil_sublist _
  | some rgb =>
    rw [Option.map_some, Option.getD_some, ← map_fst_shadesOver factors, List.map_map, List.map_map]
    exact List.Sublist.refl _

theorem distinct_entriesOver (factors : Factors α) (options : Options) :
    ((entriesOver factors options).map Prod.fst).Nodup :=
  (nodup_shadeNames _ _ options.colors.nodup_keys).sublist
    (sublist_map_fst_entriesOver factors options)

/-- The entry of a base color holds what is left of its bytes after they were turned into hue, saturation
and lightness and back. -/
theorem mem_entriesOver_base {factors : Factors α} {options : Options} {name hex value : String}
    {c : Rgb} (known : (name, hex) ∈ options.colors.toList) (read : hexToRgb hex = some c) :
    (options.namePrefix ++ shadeName name .s500, value) ∈ entriesOver factors options ↔
      value = (hslToRgb (rgbToHsl c : Hsl α)).components := by
  rw [mem_entriesOver]
  constructor
  · rintro ⟨other, text, known', rgb, read', step, hsl, listed, same⟩
    obtain ⟨named, rfl⟩ := Prod.mk.inj same
    obtain ⟨rfl, rfl⟩ := shadeName_injective ((String.append_right_inj _).mp named)
    obtain rfl := hex_unique known known'
    obtain rfl := Option.mem_unique read read'
    rw [mem_shadesOver_base.mp listed]
  · rintro rfl
    exact ⟨name, hex, known, c, read, .s500, rgbToHsl c, mem_shadesOver_base.mpr rfl, rfl⟩

/-- In every form a palette shows the base color under the name of step 500. -/
theorem shows_base (factors : Factors α) {options : Options} {name hex : String} {c : Rgb}
    (known : (name, hex) ∈ options.colors.toList) (read : hexToRgb hex = some c) :
    Shows (entriesOver factors options) (options.namePrefix ++ shadeName name .s500)
      (hslToRgb (rgbToHsl c : Hsl α)) := by
  refine shows_of_mem (distinct_entriesOver factors options) ?_ ((mem_entriesOver_base known read).mpr rfl)
  intro entry listed
  obtain ⟨_, _, _, _, _, _, hsl, _, rfl⟩ := mem_entriesOver.mp listed
  exact ⟨hslToRgb hsl, rfl⟩

end

/-- The entries that are emitted are computed in single precision. -/
theorem paletteEntries_eq_entriesOver (options : Options) :
    paletteEntries options = entriesOver options.factors options := rfl

/-- Over the rationals every color comes back from hue, saturation and lightness. So in light and in dark
palettes the shade of step 500 has the bytes of the base color, and this is what every form of the palette
shows under its name. The palettes that are made list the same entries with the rounding of single
precision: what they show there is how the base color comes back from single precision. -/
theorem base_color_survives :
    (∀ c : Rgb, hslToRgb (rgbToHsl c : Hsl Rat) = c) ∧
    (∀ (mode : OutputMode) (options : Options) (palette : Output),
      (generate mode options).result = .ok palette ↔
        (∀ color ∈ options.colors.toList, Readable options.factors color.2) ∧
          palette = mode.present (entriesOver options.factors options)) ∧
    ∀ (options : Options) (name hex : String) (c : Rgb),
      (name, hex) ∈ options.colors.toList → hexToRgb hex = some c →
        Shows (entriesOver options.factors options) (options.namePrefix ++ shadeName name .s500)
          (hslToRgb (rgbToHsl c : Hsl Float32)) ∧
        ∀ factors : Factors Rat,
          (∀ value, (options.namePrefix ++ shadeName name .s500, value) ∈ entriesOver factors options ↔
            value = c.components) ∧
          Shows (entriesOver factors options) (options.namePrefix ++ shadeName name .s500) c := by
  refine ⟨hslToRgb_rgbToHsl, fun mode options palette => ?made, ?base⟩
  case made =>
    rw [← paletteEntries_eq_entriesOver, generate_ok_iff]
  case base =>
    intro options name hex c known read
    refine ⟨shows_base options.factors known read, fun factors => ⟨fun value => ?_, ?_⟩⟩
    · rw [mem_entriesOver_base known read, hslToRgb_rgbToHsl]
    · have shown := shows_base factors known read
      rw [hslToRgb_rgbToHsl] at shown
      exact shown

/-- The base color of a dark palette of one color, in the map of values, as a declaration and as a class
name. For this color single precision shows the same. -/
theorem base_color_survives_in_dark_palette :
    let options : Options :=
      { colors := .ofList [("blue", "#3B82F6")], dark := true, namePrefix := "color-" }
    let factors : Factors Rat := ⟨9 / 2, 10, 13 / 2, 7⟩
    (generate .cssVariables options).result =
      .ok (OutputMode.present .cssVariables (entriesOver options.factors options)) ∧
    Shows (entriesOver options.factors options) "color-blue-500" ⟨59, 130, 246⟩ ∧
    (∀ value, ("color-blue-500", value) ∈ entriesOver factors options ↔ value = "59 130 246") ∧
    ∃ values references : OrderedMap String String,
      OutputMode.present .valueAlias (entriesOver factors options) = .map values ∧
      values.get? "color-blue-500" = some "59 130 246" ∧
      OutputMode.present .cssVariables (entriesOver factors options) =
        .text ("\n".intercalate (declarationLines values)) ∧
      "--color-blue-500: 59 130 246;" ∈ declarationLines values ∧
      OutputMode.present .classString (entriesOver factors options) =
        .text (" ".intercalate (classNames values)) ∧
      "[--color-blue-500]-[59_130_246]" ∈ classNames values ∧
      OutputMode.present .reference (entriesOver factors options) = .map references ∧
      references.get? "color-blue-500" = some "var(--color-blue-500)" := by
  intro options factors
  have listed : ("blue", "#3B82F6") ∈ options.colors.toList := List.mem_singleton_self _
  have readable : ∀ color ∈ options.colors.toList, Readable options.factors color.2 := by
    intro color known
    obtain rfl := List.mem_singleton.mp known
    exact ⟨by decide +kernel, by decide +kernel⟩
  have written : (⟨59, 130, 246⟩ : Rgb).components = "59 130 246" := by decide +kernel
  have underscored : (⟨59, 130, 246⟩ : Rgb).components.map (fun a => if a = ' ' then '_' else a) =
      "59_130_246" := by decide +kernel
  have rounded : hslToRgb (rgbToHsl ⟨59, 130, 246⟩ : Hsl Float32) = ⟨59, 130, 246⟩ := by decide +kernel
  obtain ⟨-, made, base⟩ := base_color_survives
  obtain ⟨shown, kept⟩ := base options "blue" "#3B82F6" ⟨59, 130, 246⟩ listed (by decide +kernel)
  rw [rounded] at shown
  obtain ⟨entry, values, references, map, refers, lines, fragments, value, reference, line, fragment⟩ :=
    kept factors
  refine ⟨(made _ _ _).mpr ⟨readable, rfl⟩, shown, ?entry, values, references, map, ?value, lines,
    ?line, fragments, ?fragment, refers, reference⟩
  case entry =>
    rw [← written]
    exact entry
  case value =>
    rw [← written]
    exact value
  case line =>
    have declared := ((line _).mpr rfl).1
    rw [written] at declared
    exact declared
  case fragment =>
    rw [underscored] at fragment
    exact fragment

end UtilityCss.Palette
