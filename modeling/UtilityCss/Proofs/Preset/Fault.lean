import UtilityCss.Preset.ConfigText
import UtilityCss.Proofs.Decimal.Order
import UtilityCss.Proofs.Preset.Basic

/-!
# Why a configuration makes no preset

A preset is refused for one fault, the first of three kinds: a sizing or a factor that is not finite and
positive, and a color that cannot be read. Among the colors the built-in ones come first, with the texts
that are configured for them. After the validation no factor is found wrong again, so the checks further
down never fail. Messages are left aside.
-/
namespace UtilityCss

open UtilityCss.Palette UtilityCss.Color

namespace Config

/-- The sizing and the factors may be used, or else what is wrong first. -/
def numberFault? (config : Config) : Option PresetError :=
  if config.sizing.isFinite = true ∧ 0 < config.sizing then
    if ∀ factor ∈ config.adjustments.toList, factor.isFinite = true ∧ 0 < factor then none
    else some .invalidAdjustments
  else some (.invalidSizing config.sizing)

/-- All colors with their texts: the built-in ones, with the configured text if there is one, and the new
ones in the order of the configuration. -/
def paletteColors (config : Config) : List (String × String) :=
  builtinColors.map (fun color => (color.1, (config.colors.get? color.1).getD color.2)) ++
    config.colors.toList.filter fun color => color.1 ∉ builtinColors.map Prod.fst

/-- The first color that cannot be read. -/
def colorFault? (config : Config) : Option PresetError :=
  (config.paletteColors.find? fun color => (hexToRgb color.2).isNone).map fun color =>
    .palette (.invalidHex color.1 color.2)

/-- What is wrong with a configuration. -/
def firstFault? (config : Config) : Option PresetError := config.numberFault?.or config.colorFault?

variable {config : Config}

theorem sizingIsValid_iff :
    config.sizingIsValid = true ↔ config.sizing.isFinite = true ∧ 0 < config.sizing := by
  rw [sizingIsValid, Bool.and_eq_true, Bool.not_eq_true', decide_eq_false_iff_not]
  exact and_congr_right fun finite => Decimal.not_le_zero_iff finite

/-- Factors are valid where the numbers have no fault. -/
theorem isValid_of_numberFault?_eq_none (faultless : config.numberFault? = none) :
    config.adjustments.isValid = true := by
  rw [numberFault?] at faultless
  split at faultless
  · split at faultless
    · next valid => exact isValid_iff.mpr valid
    · cases faultless
  · cases faultless

theorem result_validate (config : Config) :
    config.validate.result = Logged.outcome config.numberFault? () := by
  rw [numberFault?]
  by_cases sizing : config.sizing.isFinite = true ∧ 0 < config.sizing
  · have sizingValid := sizingIsValid_iff.mpr sizing
    rw [if_pos sizing]
    by_cases factors : ∀ factor ∈ config.adjustments.toList, factor.isFinite = true ∧ 0 < factor
    · rw [if_pos factors]
      exact validate_ok_iff.mpr ⟨sizingValid, isValid_iff.mpr factors⟩
    · have invalid : ¬ config.adjustments.isValid = true := fun valid => factors (isValid_iff.mp valid)
      rw [if_neg factors]
      simp [validate, sizingValid, invalid, Except.bind, Logged.outcome]
  · have invalid : ¬ config.sizingIsValid = true := fun valid => sizing (sizingIsValid_iff.mp valid)
    rw [if_neg sizing]
    simp [validate, invalid, Except.bind, Logged.outcome]

theorem paletteColors_eq (config : Config) :
    config.paletteColors = (allColors config.colors).toList :=
  (toList_allColors config.colors).symm

end Config

namespace Preset

/-- A preset is refused for the first fault of its configuration and for nothing else. -/
theorem result_create (config : Config) :
    (create config).result = Logged.outcome config.firstFault? (ofLibrary config
      (.ofList (libraryEntries config.colors config.format config.adjustments))) := by
  rw [create, Logged.result_bind, Config.result_validate, Config.firstFault?]
  cases numbers : config.numberFault? with
  | some e => rfl
  | none =>
    have valid := Config.isValid_of_numberFault?_eq_none numbers
    change (_ >>= _ : Logged PresetError Preset).result = _
    rw [Logged.result_bind, Logged.result_mapError, result_library, Logged.mapError_outcome,
      findSome?_rampFault? valid, ← Config.paletteColors_eq, Option.none_or, Config.colorFault?,
      Option.map_map]
    cases config.paletteColors.find? fun color => (hexToRgb color.2).isNone with
    | some color => rfl
    | none => rfl

/-- Faults of the numbers are named as such, all other faults are those of a color. -/
theorem eq_of_firstFault?_eq_some {config : Config} {e : PresetError}
    (fault : config.firstFault? = some e) :
    e = .invalidSizing config.sizing ∨ e = .invalidAdjustments ∨
      ∃ name hex, e = .palette (.invalidHex name hex) := by
  rcases Option.or_eq_some_iff.mp fault with numbers | ⟨-, colors⟩
  · rw [Config.numberFault?] at numbers
    split at numbers
    · split at numbers
      · cases numbers
      · exact Or.inr (Or.inl (Option.some.inj numbers).symm)
    · exact Or.inl (Option.some.inj numbers).symm
  · obtain ⟨color, -, rfl⟩ := Option.map_eq_some_iff.mp colors
    exact Or.inr (Or.inr ⟨color.1, color.2, rfl⟩)

/-- A configuration that was read has no fault in its numbers. -/
theorem numberFault?_of_ofText {config : Config} {text : String}
    (read : (Config.ofText text).result = .ok config) : config.numberFault? = none := by
  obtain ⟨written, -, checked⟩ := Logged.bind_ok_iff.mp read
  obtain ⟨⟨⟩, valid, last⟩ := Logged.bind_ok_iff.mp checked
  rw [← Except.ok.inj last]
  rw [Config.result_validate] at valid
  cases numbers : written.numberFault? with
  | some e =>
    rw [numbers] at valid
    cases valid
  | none => rfl

/-- A preset is made exactly of a configuration without a fault, and otherwise the first fault is
reported: never one of the further checks of factors. A configuration that was read from a text has no
fault but a color that cannot be read. -/
theorem create_fails_for_first_fault (config : Config) :
    (∀ e, (create config).result = .error e ↔ config.firstFault? = some e) ∧
    ((∃ p, (create config).result = .ok p) ↔ config.firstFault? = none) ∧
    (create config).result ≠ .error (.palette .invalidFactors) ∧
    (∀ factors, (create config).result ≠ .error (.palette (.uncheckedFactors factors))) ∧
    ∀ text, (Config.ofText text).result = .ok config →
      (∃ p, (create config).result = .ok p) ∨
        ∃ name hex, (create config).result = .error (.palette (.invalidHex name hex)) := by
  have made := result_create config
  have fails : ∀ e, (create config).result = .error e ↔ config.firstFault? = some e := by
    intro e
    rw [made, Logged.outcome_eq_error_iff]
  have succeeds : (∃ p, (create config).result = .ok p) ↔ config.firstFault? = none := by
    simp only [made, Logged.outcome_eq_ok_iff, exists_and_left, exists_eq, and_true]
  refine ⟨fails, succeeds, ?_, ?_, ?_⟩
  · intro unchecked
    rcases eq_of_firstFault?_eq_some ((fails _).mp unchecked) with h | h | ⟨name, hex, h⟩ <;> cases h
  · intro factors unchecked
    rcases eq_of_firstFault?_eq_some ((fails _).mp unchecked) with h | h | ⟨name, hex, h⟩ <;> cases h
  · intro text read
    have onlyColors : config.firstFault? = config.colorFault? := by
      rw [Config.firstFault?, numberFault?_of_ofText read, Option.none_or]
    cases fault : config.colorFault? with
    | none => exact Or.inl (succeeds.mpr (onlyColors.trans fault))
    | some e =>
      obtain ⟨color, -, rfl⟩ := Option.map_eq_some_iff.mp fault
      exact Or.inr ⟨color.1, color.2, (fails _).mpr (onlyColors.trans fault)⟩

/-- A built-in color that is configured last is still reported first, and a sizing that is no number
before a factor of zero. -/
theorem create_fails_for_overridden_color :
    (create { colors := .ofList [("zz", "nothex"), ("blue", "#12")] }).result =
      .error (.palette (.invalidHex "blue" "#12")) ∧
    (create { sizing := 0 / 0, adjustments := ⟨1, 0, 1, 1⟩ }).result =
      .error (.invalidSizing (0 / 0)) ∧
    (Config.ofText "[2]").result = .ok { sizing := 2 } ∧
    ((∃ p, (create { sizing := 2 }).result = .ok p) ∨
      ∃ name hex, (create { sizing := 2 }).result = .error (.palette (.invalidHex name hex))) := by
  have read : (Config.ofText "[2]").result = .ok { sizing := 2 } := rfl
  refine ⟨((create_fails_for_first_fault _).1 _).mpr rfl,
    ((create_fails_for_first_fault _).1 _).mpr rfl, read, ?_⟩
  exact (create_fails_for_first_fault _).2.2.2.2 _ read

end Preset

end UtilityCss
