import Mathlib.Data.Finset.Card
import UtilityCss.Proofs.Preset.Basic
import UtilityCss.Proofs.Preset.NamedValue

/-!
# What names stand for in a preset

A name stands for the fixed value in the utility, else for the fixed value in all utilities, else for a
shade of a color, and for nothing else. Names of colors are arbitrary: a color may be called like a fixed
name or like the shade of another color, and yet hides neither.
-/
namespace UtilityCss.Preset

open UtilityCss.Palette UtilityCss.Color

/-- The text of a color: the configured one, or else the built-in one. -/
def hex? (config : Config) (color : String) : Option String :=
  (config.colors.get? color).or (builtinColors.lookup color)

/-- The value is a shade of a known color, taken from its light ramp and written in the format. -/
def ShadeValue (config : Config) (color : String) (step : Step) (value : String) : Prop :=
  ∃ hex steps hsl, hex? config color = some hex ∧
    (ramp config.adjustments false color hex).result = .ok steps ∧ (step, hsl) ∈ steps ∧
    value = config.format.wrap (hslToRgb hsl)

/-- What a name stands for in a utility. -/
inductive StandsFor (config : Config) (utility name : String) : String → Prop where
  | forOne {value : String} (fixed : ((utility, name), value) ∈ fixedValuesForOne) :
      StandsFor config utility name value
  | forAll {value : String} (free : ∀ v, ((utility, name), v) ∉ fixedValuesForOne)
      (fixed : (name, value) ∈ fixedValues) : StandsFor config utility name value
  | shade {value color : String} {step : Step} (free : ∀ v, ((utility, name), v) ∉ fixedValuesForOne)
      (free' : ∀ v, (name, v) ∉ fixedValues) (named : name = shadeName color step)
      (shown : ShadeValue config color step value) : StandsFor config utility name value

variable {config : Config} {colors : OrderedMap String String} {p : Preset}

/-! ## Shades of the library -/

/-- The text of a color is the one that the library reads. -/
theorem mem_allColors_iff {color hex : String} :
    (color, hex) ∈ (allColors config.colors).toList ↔ hex? config color = some hex := by
  rw [← OrderedMap.get?_eq_some_iff, get?_allColors, hex?]

theorem library_get?_eq_some_iff
    (made : (library config.colors config.format config.adjustments).result = .ok colors)
    {name value : String} :
    colors.get? name = some value ↔
      ∃ color step, name = shadeName color step ∧ ShadeValue config color step value := by
  have readable := (library_ok_iff.mp made).1
  rw [get?_library_eq_some_iff made]
  simp only [get?_allColors]
  constructor
  · rintro ⟨color, hex, known, ⟨step, hsl⟩, listed, same⟩
    cases same
    have readableHex : Readable config.adjustments hex :=
      readable (color, hex) (mem_allColors_iff.mpr known)
    have ok : (ramp config.adjustments false color hex).result =
        .ok (listedShades config.adjustments false hex) := by
      rw [ramp_ok_iff]
      exact ⟨readableHex, rfl⟩
    have shown : ShadeValue config color step (config.format.wrap (hslToRgb hsl)) :=
      ⟨hex, listedShades config.adjustments false hex, hsl, known, ok, listed, rfl⟩
    exact ⟨color, step, rfl, shown⟩
  · rintro ⟨color, step, rfl, hex, steps, hsl, known, ok, listed, rfl⟩
    obtain ⟨-, rfl⟩ := ramp_ok_iff.mp ok
    exact ⟨color, hex, known, (step, hsl), listed, rfl⟩

/-- Every known color has a value at every step. -/
theorem exists_shadeValue
    (made : (library config.colors config.format config.adjustments).result = .ok colors)
    {color hex : String} (known : hex? config color = some hex) (step : Step) :
    ∃ value, ShadeValue config color step value ∧
      colors.get? (shadeName color step) = some value := by
  have listed : color ∈ (allColors config.colors).keys :=
    List.mem_map.mpr ⟨(color, hex), mem_allColors_iff.mpr known, rfl⟩
  obtain ⟨rgb, found⟩ := exists_get?_library made listed step
  obtain ⟨other, last, same, shown⟩ := (library_get?_eq_some_iff made).mp found
  obtain ⟨rfl, rfl⟩ := shadeName_injective same
  exact ⟨_, shown, found⟩

/-- The colors are counted by their names. -/
theorem size_allColors (colors : Colors) :
    (allColors colors).size =
      (builtinColors.map Prod.fst ++ colors.keys).toFinset.card := by
  have names : (allColors colors).keys.toFinset =
      (builtinColors.map Prod.fst ++ colors.keys).toFinset := by
    ext color
    simp only [List.mem_toFinset, List.mem_append, mem_keys_allColors]
  rw [← names, List.toFinset_card_of_nodup (allColors colors).nodup_keys, OrderedMap.keys,
    List.length_map, OrderedMap.size]

/-! ## Names -/

/-- A name stands for one value: the fixed one in the utility, else the fixed one, else a shade. -/
theorem get?_withColors_eq_some_iff
    (made : (library config.colors config.format config.adjustments).result = .ok colors)
    {utility name value : String} :
    (ValueTable.withColors colors).get? utility name = some value ↔
      StandsFor config utility name value := by
  rw [get?_withColors_eq, Option.or_eq_some_iff, Option.or_eq_some_iff,
    Option.eq_none_iff_forall_ne_some, Option.eq_none_iff_forall_ne_some]
  simp only [ne_eq, get?_fixedValuesForOne_eq_some_iff, get?_fixedValues_eq_some_iff,
    library_get?_eq_some_iff made]
  constructor
  · rintro (fixed | ⟨free, fixed | ⟨free', color, step, named, shown⟩⟩)
    · exact .forOne fixed
    · exact .forAll free fixed
    · exact .shade free free' named shown
  · intro stands
    cases stands with
    | forOne fixed => exact Or.inl fixed
    | forAll free fixed => exact Or.inr ⟨free, Or.inl fixed⟩
    | shade free free' named shown => exact Or.inr ⟨free, Or.inr ⟨free', _, _, named, shown⟩⟩

/-- In every preset a name stands for the fixed value in the utility, else for the fixed value in all
utilities, else for a shade of a color, else for nothing. Every shade of every color can be named in every
utility, and there are eleven names for each color beside the fifteen fixed ones. -/
theorem names_stand_for_values (created : (create config).result = .ok p) :
    (∀ utility name value,
      p.values.get? utility name = some value ↔ StandsFor config utility name value) ∧
    (∀ color hex, hex? config color = some hex → ∀ step, ∃ value,
      ShadeValue config color step value ∧
        ∀ utility, p.values.get? utility (shadeName color step) = some value) ∧
    p.values.size =
      15 + 11 * (builtinColors.map Prod.fst ++ config.colors.keys).toFinset.card := by
  obtain ⟨-, colors, made, rfl⟩ := create_ok_iff.mp created
  refine ⟨fun utility name value => get?_withColors_eq_some_iff made, ?_, ?_⟩
  · intro color hex known step
    obtain ⟨value, shown, found⟩ := exists_shadeValue made known step
    refine ⟨value, shown, fun utility => ?_⟩
    exact (get?_withColors_shadeName colors utility color step).trans found
  · have size := size_withColors (keys_library made)
    rw [size_library made, size_allColors] at size
    exact size

/-- Colors that are called like a shade, like a fixed name, or by nothing at all. -/
def oddlyNamed : Config where
  colors := .ofList [("red-50", "#123456"), ("px", "#000"), ("", "#fff"), ("blue", "#0000ff")]
  format := .hsl

theorem names_stand_for_values_of_odd_colors :
    ∃ p, (create oddlyNamed).result = .ok p ∧
      p.values.get? "order" "none" = some "0" ∧ p.values.get? "w" "px" = some "1px" ∧
      (∃ value, ShadeValue oddlyNamed "red-50" .s500 value ∧
        ∀ utility, p.values.get? utility "red-50-500" = some value) ∧
      (∃ value, ShadeValue oddlyNamed "" .s50 value ∧
        ∀ utility, p.values.get? utility "-50" = some value) ∧
      p.values.size = 15 + 11 * 25 := by
  have created : ∃ p, (create oddlyNamed).result = .ok p := by
    rw [exists_create_iff]
    exact ⟨by decide +kernel, by decide +kernel, by decide +kernel⟩
  obtain ⟨p, created⟩ := created
  obtain ⟨values, shades, size⟩ := names_stand_for_values created
  have order : StandsFor oddlyNamed "order" "none" "0" := .forOne (by decide +kernel)
  have px : StandsFor oddlyNamed "w" "px" "1px" :=
    .forAll (by simp [fixedValuesForOne]) (by decide +kernel)
  have known : hex? oddlyNamed "red-50" = some "#123456" ∧ hex? oddlyNamed "" = some "#fff" := by
    decide +kernel
  have names : (builtinColors.map Prod.fst ++ oddlyNamed.colors.keys).toFinset.card = 25 := by
    decide +kernel
  refine ⟨p, created, (values _ _ _).mpr order, (values _ _ _).mpr px, shades _ _ known.1 .s500,
    shades _ _ known.2 .s50, ?_⟩
  rw [size, names]

end UtilityCss.Preset
