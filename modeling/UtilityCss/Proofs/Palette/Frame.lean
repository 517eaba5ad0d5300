import UtilityCss.Proofs.Palette.Library
import UtilityCss.Proofs.Palette.Modes

/-!
# What a new color does to the library

A color that is added or replaced changes the entries of its own shades and no others, even where one
color has the name of another one's shade. Old entries keep their order, and those of a new color come
last. The library and the palette of the same colors show the same channels.
-/
namespace UtilityCss.Palette

open UtilityCss.Color

theorem allColors_insert (colors : Colors) (name hex : String) :
    allColors (colors.insert name hex) = (allColors colors).insert name hex :=
  OrderedMap.merged_insert (OrderedMap.ofList builtinColors) colors name hex

/-- No configured color is lost among the built-in ones. -/
theorem mem_toList_allColors {colors : Colors} {color : String × String}
    (configured : color ∈ colors.toList) : color ∈ (allColors colors).toList := by
  rw [← OrderedMap.get?_eq_some_iff] at configured ⊢
  rw [get?_allColors, configured, Option.some_or]

section
variable {colors : Colors} {format : Format} {factors : Factors Float32}
  {lib grown : OrderedMap String String} {name hex : String}

/-- Even without configured colors there is a ramp to make, which checks the factors. -/
theorem isValid_of_library (made : (library colors format factors).result = .ok lib) :
    factors.isValid = true := by
  have known : "red" ∈ (allColors colors).keys :=
    (mem_keys_allColors colors "red").mpr (Or.inl (by decide))
  obtain ⟨color, listed, -⟩ := List.mem_map.mp known
  exact ((library_ok_iff.mp made).1 color listed).1

/-- The library can be made after a color that can be read is added or takes another's place. -/
theorem exists_library_insert (made : (library colors format factors).result = .ok lib)
    (read : (hexToRgb hex).isSome = true) :
    ∃ grown, (library (colors.insert name hex) format factors).result = .ok grown := by
  refine ⟨_, library_ok_iff.mpr ⟨?_, rfl⟩⟩
  rw [allColors_insert]
  exact OrderedMap.forall_mem_insert (library_ok_iff.mp made).1 ⟨isValid_of_library made, read⟩

/-- Whatever is not named after the color keeps its value. -/
theorem get?_library_insert (made : (library colors format factors).result = .ok lib)
    (remade : (library (colors.insert name hex) format factors).result = .ok grown) {key : String}
    (other : ∀ step, key ≠ shadeName name step) : grown.get? key = lib.get? key := by
  refine Option.ext fun value => ?_
  rw [get?_library_eq_some_iff remade, get?_library_eq_some_iff made, allColors_insert]
  refine exists_congr fun color => exists_congr fun text => ?_
  by_cases same : color = name
  · subst same
    have absent (text : String) : ¬ ∃ shade ∈ listedShades factors false text,
        libraryEntry format color shade = (key, value) := by
      rintro ⟨shade, -, entry⟩
      exact other shade.1 (congrArg Prod.fst entry).symm
    exact iff_of_false (fun found => absent text found.2) (fun found => absent text found.2)
  · rw [OrderedMap.get?_insert, if_neg same]

/-- All names stay in their places, and those of a new color are appended. -/
theorem keys_library_insert (made : (library colors format factors).result = .ok lib)
    (remade : (library (colors.insert name hex) format factors).result = .ok grown) :
    grown.keys = lib.keys ++
      if name ∈ builtinColors.map Prod.fst ∨ name ∈ colors.keys then []
      else Step.all.map (shadeName name) := by
  rw [keys_library remade, keys_library made, allColors_insert, OrderedMap.keys_insert]
  simp only [mem_keys_allColors]
  split
  · rw [List.append_nil]
  · rw [shadeNames_append, shadeNames_singleton]
    rfl

/-- Whether the library can be made does not depend on the format. -/
theorem exists_library_of_format (made : (library colors format factors).result = .ok lib)
    (other : Format) : ∃ lib', (library colors other factors).result = .ok lib' :=
  ⟨_, library_ok_iff.mpr ⟨(library_ok_iff.mp made).1, rfl⟩⟩

end

/-- The library writes the channels that the light palette gives the same shade. -/
theorem exists_channels {colors : Colors} {factors : Factors Float32}
    {plain : OrderedMap String String} (made : (library colors .rgb factors).result = .ok plain)
    {color : String} (known : color ∈ colors.keys) (step : Step) :
    ∃ channels,
      (givenValues .valueAlias
          { colors := colors, dark := false, namePrefix := "", factors := factors }).get?
        (shadeName color step) = some channels ∧
      plain.get? (shadeName color step) = some ("rgb(" ++ channels ++ ")") := by
  obtain ⟨⟨color, hex⟩, configured, rfl⟩ := List.mem_map.mp known
  have readable := (library_ok_iff.mp made).1
  have listed := mem_toList_allColors configured
  obtain ⟨hsl, shade⟩ := exists_mem_listedShades false (readable _ listed) step
  refine ⟨shadeText hsl, ?palette, ?library⟩
  case palette =>
    have given := @get?_givenValues
      { colors := colors, dark := false, namePrefix := "", factors := factors } .valueAlias
      (fun color configured => readable color (mem_toList_allColors configured)) color hex configured
      step hsl shade
    rwa [String.empty_append] at given
  case library =>
    have found := (OrderedMap.get?_eq_some_iff (allColors colors) color hex).mpr listed
    exact (get?_library_eq_some_iff made).mpr ⟨color, hex, found, (step, hsl), shade, rfl⟩

/-- Where the library of some colors can be made, it can also be made with one more color that can be
read, or with another text for one of them. Values change only under the names of that color's shades.
All old names keep their order, and exactly if the color is neither built in nor configured yet, its names
are appended. In the `rgb` format each shade of a configured color has the channels that the light palette
without prefix gives it. -/
theorem library_insert_frame {colors : Colors} {format : Format} {factors : Factors Float32}
    {lib : OrderedMap String String} {name hex : String}
    (made : (library colors format factors).result = .ok lib)
    (read : (hexToRgb hex).isSome = true) :
    (∃ grown, (library (colors.insert name hex) format factors).result = .ok grown ∧
      (∀ key, (∀ step, key ≠ shadeName name step) → grown.get? key = lib.get? key) ∧
      grown.keys = lib.keys ++
        if name ∈ builtinColors.map Prod.fst ∨ name ∈ colors.keys then []
        else Step.all.map (shadeName name)) ∧
    ∃ plain palette, (library colors .rgb factors).result = .ok plain ∧
      (generate .valueAlias
          { colors := colors, dark := false, namePrefix := "", factors := factors }).result =
        .ok (.map palette) ∧
      ∀ color ∈ colors.keys, ∀ step, ∃ channels,
        palette.get? (shadeName color step) = some channels ∧
        plain.get? (shadeName color step) = some ("rgb(" ++ channels ++ ")") := by
  constructor
  · obtain ⟨grown, remade⟩ := @exists_library_insert colors format factors lib name hex made read
    exact ⟨grown, remade, fun _ => get?_library_insert made remade, keys_library_insert made remade⟩
  · obtain ⟨plain, written⟩ := exists_library_of_format made .rgb
    have readable : ∀ color ∈ colors.toList, Readable factors color.2 := fun color configured =>
      (library_ok_iff.mp made).1 color (mem_toList_allColors configured)
    exact ⟨plain, _, written, result_generate_of_readable .valueAlias readable,
      fun _ known => exists_channels written known⟩

/-- A single configured color. -/
def onlyBrand : Colors := .ofList [("brand", "#123456")]

/-- A color with the name of another one's shade leaves that shade alone. -/
theorem library_insert_brand_50 :
    ∃ lib grown, (library onlyBrand .hsl default).result = .ok lib ∧
      (library (onlyBrand.insert "brand-50" "#000") .hsl default).result = .ok grown ∧
      grown.get? "brand-50" = lib.get? "brand-50" ∧
      grown.keys = lib.keys ++ Step.all.map (shadeName "brand-50") := by
  have readable : ∀ color ∈ (allColors onlyBrand).toList, Readable default color.2 := by
    unfold Readable
    decide +kernel
  have made : (library onlyBrand .hsl default).result =
      .ok (.ofList (libraryEntries onlyBrand .hsl default)) :=
    library_ok_iff.mpr ⟨readable, rfl⟩
  obtain ⟨⟨grown, remade, kept, keys⟩, -⟩ :=
    @library_insert_frame onlyBrand .hsl default _ "brand-50" "#000" made (by decide +kernel)
  refine ⟨_, grown, made, remade, kept "brand-50" ?_, ?_⟩
  · intro step
    cases step <;> decide
  · rw [keys, if_neg (by decide +kernel)]

end UtilityCss.Palette
