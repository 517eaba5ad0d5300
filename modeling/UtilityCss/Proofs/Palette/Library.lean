import UtilityCss.Palette.Library
import UtilityCss.Proofs.OrderedMap
import UtilityCss.Proofs.Palette.Ramp

/-!
# What the color library holds

The library is made exactly if the factors are valid and all colors can be read; otherwise the first
color that cannot be read is reported. It has every shade of every color under its own name, written in
the format. Its colors are the built-in ones in their order, with the texts that are configured for them,
and behind them the other configured ones.
-/
namespace UtilityCss.Palette

open UtilityCss.Color

/-- The entry of a shade: its name, and its color in the format. -/
def libraryEntry (format : Format) (color : String) (shade : Step × Hsl Float32) : String × String :=
  (shadeName color shade.1, format.wrap (hslToRgb shade.2))

/-- The entries of the library, color after color. -/
def libraryEntries (colors : Colors) (format : Format) (factors : Factors Float32) :
    List (String × String) :=
  (allColors colors).toList.flatMap fun color =>
    (listedShades factors false color.2).map (libraryEntry format color.1)

/-- The library fails for the first color that has a fault. -/
theorem result_library (colors : Colors) (format : Format) (factors : Factors Float32) :
    (library colors format factors).result =
      Logged.outcome ((allColors colors).toList.findSome? (rampFault? factors))
        (.ofList (libraryEntries colors format factors)) := by
  have listed := result_rampEach factors false (libraryEntry format) (allColors colors).toList
  rw [library, Logged.result_bind, libraryEntries, List.flatMap_def]
  refine (Logged.result_bind _ _).trans ((congrArg (Except.bind · _) listed).trans ?_)
  exact Logged.bind_outcome _ _ fun ramps => OrderedMap.ofList (List.flatten ramps)

theorem library_ok_iff {colors : Colors} {format : Format} {factors : Factors Float32}
    {lib : OrderedMap String String} :
    (library colors format factors).result = .ok lib ↔
      (∀ color ∈ (allColors colors).toList, Readable factors color.2) ∧
        lib = .ofList (libraryEntries colors format factors) := by
  rw [result_library, Logged.outcome_eq_ok_iff, findSome?_rampFault?_eq_none_iff]

theorem map_fst_libraryEntries {colors : Colors} {factors : Factors Float32} (format : Format)
    (readable : ∀ color ∈ (allColors colors).toList, Readable factors color.2) :
    (libraryEntries colors format factors).map Prod.fst =
      shadeNames "" false (allColors colors).keys :=
  map_fst_rampEntries false (fun _ _ => (String.empty_append).symm) readable

section
variable {colors : Colors} {format : Format} {factors : Factors Float32}
  {lib : OrderedMap String String}

/-- No entry of the library takes the place of another. -/
theorem toList_library (made : (library colors format factors).result = .ok lib) :
    lib.toList = libraryEntries colors format factors := by
  obtain ⟨readable, rfl⟩ := library_ok_iff.mp made
  refine OrderedMap.toList_ofList_of_distinct ?_
  rw [map_fst_libraryEntries format readable]
  exact nodup_shadeNames _ _ (allColors colors).nodup_keys

theorem keys_library (made : (library colors format factors).result = .ok lib) :
    lib.keys = shadeNames "" false (allColors colors).keys := by
  rw [OrderedMap.keys, toList_library made]
  exact map_fst_libraryEntries format (library_ok_iff.mp made).1

/-- The library has eleven entries for each color. -/
theorem size_library (made : (library colors format factors).result = .ok lib) :
    lib.size = 11 * (allColors colors).size := by
  have count := congrArg List.length (keys_library made)
  rw [length_shadeNames] at count
  simpa [OrderedMap.size, OrderedMap.keys] using count

/-- The library has the shades of the colors and nothing else. -/
theorem get?_library_eq_some_iff (made : (library colors format factors).result = .ok lib)
    {name value : String} :
    lib.get? name = some value ↔
      ∃ color hex, (allColors colors).get? color = some hex ∧
        ∃ shade ∈ listedShades factors false hex, libraryEntry format color shade = (name, value) := by
  rw [OrderedMap.get?_eq_some_iff, toList_library made, libraryEntries, List.mem_flatMap]
  simp only [List.mem_map, OrderedMap.get?_eq_some_iff, Prod.exists]

/-- Every shade of every color is in the library, under its name and in the format. -/
theorem exists_get?_library (made : (library colors format factors).result = .ok lib)
    {color : String} (known : color ∈ (allColors colors).keys) (step : Step) :
    ∃ rgb, lib.get? (shadeName color step) = some (format.wrap rgb) := by
  have readable := (library_ok_iff.mp made).1
  obtain ⟨entry, listed, rfl⟩ := List.mem_map.mp known
  obtain ⟨hsl, shade⟩ := exists_mem_listedShades false (readable entry listed) step
  have found := (OrderedMap.get?_eq_some_iff (allColors colors) entry.1 entry.2).mpr listed
  exact ⟨hslToRgb hsl,
    (get?_library_eq_some_iff made).mpr ⟨entry.1, entry.2, found, (step, hsl), shade, rfl⟩⟩

end

theorem nodup_builtinColors : (builtinColors.map Prod.fst).Nodup := by decide +kernel

/-- The built-in colors come first, each with the text that is configured for it if there is one. -/
theorem toList_allColors (colors : Colors) :
    (allColors colors).toList =
      builtinColors.map (fun color => (color.1, (colors.get? color.1).getD color.2)) ++
        colors.toList.filter fun color => color.1 ∉ builtinColors.map Prod.fst := by
  have listed : (OrderedMap.ofList builtinColors).toList = builtinColors :=
    OrderedMap.toList_ofList_of_distinct nodup_builtinColors
  rw [allColors, OrderedMap.toList_merged, OrderedMap.keys, listed]

/-- A color has the text that is configured for it, or else the built-in one. -/
theorem get?_allColors (colors : Colors) (color : String) :
    (allColors colors).get? color = (colors.get? color).or (builtinColors.lookup color) := by
  rw [allColors, OrderedMap.get?_merged, OrderedMap.get?_ofList_of_distinct nodup_builtinColors]

/-- The colors are the built-in ones and the configured ones. -/
theorem mem_keys_allColors (colors : Colors) (color : String) :
    color ∈ (allColors colors).keys ↔
      color ∈ builtinColors.map Prod.fst ∨ color ∈ colors.keys := by
  rw [allColors, OrderedMap.mem_keys_merged, OrderedMap.keys,
    OrderedMap.toList_ofList_of_distinct nodup_builtinColors]

end UtilityCss.Palette
