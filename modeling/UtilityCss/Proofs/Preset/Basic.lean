import UtilityCss.Preset.Basic
import UtilityCss.Proofs.Palette.Library

/-!
# Which presets are made

A preset is made exactly of the configurations with valid numbers and readable colors. Messages aside,
it is determined by the configuration and the library of its colors.
-/
namespace UtilityCss

open UtilityCss.Utility UtilityCss.Preset UtilityCss.Palette UtilityCss.Color

/-- Colors that replace built-in ones are reported and change nothing else. -/
theorem Config.validate_ok_iff {config : Config} :
    config.validate.result = .ok () ↔
      config.sizingIsValid = true ∧ config.adjustments.isValid = true := by
  have warned : (Logged.forEach (fun name => (Logged.warn ("[CONFIG] color '" ++ name ++
      "' replaces the built-in '" ++ name ++ "' ramp") : Logged PresetError PUnit))
      config.replacedNames).result = .ok (config.replacedNames.map fun _ => ⟨⟩) :=
    (Logged.result_forEach (fun _ _ => rfl)).trans
      (Logged.outcome_eq_ok_iff.mpr ⟨List.findSome?_eq_none_iff.mpr fun _ _ => rfl, rfl⟩)
  rw [validate]
  by_cases sizing : config.sizingIsValid = true
  · by_cases factors : config.adjustments.isValid = true
    · simp [sizing, factors, warned, Except.bind]
    · simp [sizing, factors, Except.bind]
  · simp [sizing, Except.bind]

namespace Preset

/-- The preset of a configuration with the colors of its library. -/
def ofLibrary (config : Config) (colors : OrderedMap String String) : Preset :=
  ⟨config, ⟨config.sizing, config.format⟩, builtinTable, .withColors colors, .builtin,
    builtinVariables⟩

theorem create_ok_iff {config : Config} {p : Preset} :
    (create config).result = .ok p ↔
      config.validate.result = .ok () ∧
        ∃ colors, (library config.colors config.format config.adjustments).result = .ok colors ∧
          p = ofLibrary config colors := by
  rw [create]
  simp only [Logged.bind_ok_iff, Logged.mapError_ok_iff]
  constructor
  · rintro ⟨⟨⟩, valid, colors, made, table, reported, _, _, last⟩
    refine ⟨valid, colors, made, ?_⟩
    rw [← Except.ok.inj last, ← Except.ok.inj reported]
    rfl
  · rintro ⟨valid, colors, made, rfl⟩
    exact ⟨⟨⟩, valid, colors, made, builtinTable, rfl, ⟨⟩, rfl, rfl⟩

/-- A preset is made exactly if the numbers are valid and all colors can be read. -/
theorem exists_create_iff {config : Config} :
    (∃ p, (create config).result = .ok p) ↔
      config.sizingIsValid = true ∧ config.adjustments.isValid = true ∧
        ∀ color ∈ (allColors config.colors).toList, (hexToRgb color.2).isSome = true := by
  constructor
  · rintro ⟨p, ok⟩
    obtain ⟨valid, colors, made, -⟩ := create_ok_iff.mp ok
    obtain ⟨sizing, factors⟩ := Config.validate_ok_iff.mp valid
    exact ⟨sizing, factors, fun color listed => ((library_ok_iff.mp made).1 color listed).2⟩
  · rintro ⟨sizing, factors, colors⟩
    have valid := Config.validate_ok_iff.mpr ⟨sizing, factors⟩
    have made : (library config.colors config.format config.adjustments).result = .ok _ :=
      library_ok_iff.mpr ⟨fun color listed => ⟨factors, colors color listed⟩, rfl⟩
    exact ⟨_, create_ok_iff.mpr ⟨valid, _, made, rfl⟩⟩

/-- The configuration that sets nothing makes a preset. -/
theorem exists_create_default : ∃ p, (create {}).result = .ok p := by
  rw [exists_create_iff]
  refine ⟨?_, ?_, ?_⟩
  · decide +kernel
  · decide +kernel
  · decide +kernel

/-! ## Resolving -/

/-- A value that is no name is resolved as it stands. -/
theorem resolve_of_get?_eq_none (p : Preset) {utility : String} {t : Utility.Token}
    (free : p.values.get? utility t.value = none) :
    p.resolve utility t = p.table.resolve utility t p.context := by
  rw [resolve, free]

/-- A name is resolved as what it stands for. -/
theorem resolve_of_get?_eq_some (p : Preset) {utility value : String} {t : Utility.Token}
    (stands : p.values.get? utility t.value = some value) :
    p.resolve utility t = p.table.resolve utility { t with value := value } p.context := by
  rw [resolve, stands]

end Preset

end UtilityCss
