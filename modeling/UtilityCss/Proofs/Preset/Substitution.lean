import UtilityCss.Proofs.Color.Format
import UtilityCss.Proofs.Preset.Meaning

/-!
# Names are replaced once

What a name stands for is no name itself, in whatever utility, so a token is resolved with the same
value whether it gives the name or what the name stands for. Colors may have any names: a name that is
made of one has a hyphen and ends in a zero, while a written color ends in a parenthesis and no fixed
value has both.
-/
namespace UtilityCss.Preset

open UtilityCss.Palette UtilityCss.Color

/-- The names that are fixed in all utilities or in one. -/
def fixedNames : List String :=
  fixedValues.map Prod.fst ++ fixedValuesForOne.map fun entry => entry.1.2

/-- What the fixed names stand for. -/
def fixedTexts : List String := fixedValues.map Prod.snd ++ fixedValuesForOne.map Prod.snd

/-- A text that can stand for a value in some utility of some preset. -/
inductive IsName (text : String) : Prop where
  | fixed (listed : text ∈ fixedNames)
  | shade {color : String} {step : Step} (named : text = shadeName color step)

/-- A text that some name can stand for. -/
inductive IsMeaning (format : Format) (text : String) : Prop where
  | fixed (listed : text ∈ fixedTexts)
  | color {rgb : Rgb} (written : text = format.wrap rgb)

variable {config : Config} {p : Preset} {utility name value : String}

theorem StandsFor.isName (h : StandsFor config utility name value) : IsName name := by
  cases h with
  | forOne fixed => exact .fixed (List.mem_append_right _ (List.mem_map.mpr ⟨_, fixed, rfl⟩))
  | forAll _ fixed => exact .fixed (List.mem_append_left _ (List.mem_map.mpr ⟨_, fixed, rfl⟩))
  | shade _ _ named _ => exact .shade named

theorem StandsFor.isMeaning (h : StandsFor config utility name value) :
    IsMeaning config.format value := by
  cases h with
  | forOne fixed => exact .fixed (List.mem_append_right _ (List.mem_map.mpr ⟨_, fixed, rfl⟩))
  | forAll _ fixed => exact .fixed (List.mem_append_left _ (List.mem_map.mpr ⟨_, fixed, rfl⟩))
  | shade _ _ _ shown =>
    obtain ⟨_, _, _, _, _, _, written⟩ := shown
    exact .color written

/-! ## No meaning is a name -/

theorem notMem_fixedNames_of_mem_fixedTexts : ∀ text ∈ fixedTexts, text ∉ fixedNames := by
  decide +kernel

/-- A fixed value that ends in a zero has no hyphen. -/
theorem ne_shadeName_of_mem_fixedTexts {text : String} (listed : text ∈ fixedTexts) (color : String)
    (step : Step) : text ≠ shadeName color step := by
  have apart : ∀ text ∈ fixedTexts, text.toList.getLast? ≠ some '0' ∨ '-' ∉ text.toList := by
    decide +kernel
  rintro rfl
  rcases apart _ listed with last | noHyphen
  · exact last (getLast?_shadeName color step)
  · exact noHyphen (by simp [shadeName])

/-- No fixed name ends in a parenthesis. -/
theorem wrap_notMem_fixedNames (format : Format) (rgb : Rgb) : format.wrap rgb ∉ fixedNames := by
  have ends : ∀ name ∈ fixedNames, name.toList.getLast? ≠ some ')' := by
    decide +kernel
  exact fun listed => ends _ listed (getLast?_wrap format rgb)

theorem wrap_ne_shadeName (format : Format) (rgb : Rgb) (color : String) (step : Step) :
    format.wrap rgb ≠ shadeName color step := by
  intro same
  have last := getLast?_wrap format rgb
  rw [same, getLast?_shadeName] at last
  cases last

theorem IsMeaning.not_isName {format : Format} {text : String} (h : IsMeaning format text) :
    ¬ IsName text := by
  intro name
  cases h with
  | fixed listed =>
    cases name with
    | fixed again => exact notMem_fixedNames_of_mem_fixedTexts text listed again
    | shade named => exact ne_shadeName_of_mem_fixedTexts listed _ _ named
  | color written =>
    subst written
    cases name with
    | fixed listed => exact wrap_notMem_fixedNames _ _ listed
    | shade named => exact wrap_ne_shadeName _ _ _ _ named

/-! ## Resolving -/

/-- In every preset what a name stands for is no name in any utility. So a token with a name, and the
token with what the name stands for, are both resolved as the table resolves the latter. -/
theorem substitution_is_final (created : (create config).result = .ok p)
    (stands : p.values.get? utility name = some value) :
    (∀ other, p.values.get? other value = none) ∧
    ∀ t : Utility.Token,
      p.resolve utility { t with value := name } =
        p.table.resolve utility { t with value := value } p.context ∧
      p.resolve utility { t with value := value } =
        p.table.resolve utility { t with value := value } p.context := by
  obtain ⟨-, colors, made, rfl⟩ := create_ok_iff.mp created
  have meaning := ((get?_withColors_eq_some_iff made).mp stands).isMeaning
  have final : ∀ other, (ofLibrary config colors).values.get? other value = none := by
    intro other
    rw [Option.eq_none_iff_forall_ne_some]
    intro again found
    exact meaning.not_isName ((get?_withColors_eq_some_iff made).mp found).isName
  refine ⟨final, fun t => ⟨?named, ?plain⟩⟩
  case named =>
    exact @resolve_of_get?_eq_some (ofLibrary config colors) _ _ { t with value := name } stands
  case plain =>
    exact @resolve_of_get?_eq_none (ofLibrary config colors) _ { t with value := value } (final _)

/-- The fixed value that looks most like the name of a shade. -/
theorem substitution_is_final_for_order_none :
    ∃ p, (create {}).result = .ok p ∧ p.values.get? "order" "none" = some "0" ∧
      (∀ other, p.values.get? other "0" = none) ∧
      ∀ t : Utility.Token,
        p.resolve "order" { t with value := "none" } =
          p.table.resolve "order" { t with value := "0" } p.context ∧
        p.resolve "order" { t with value := "0" } =
          p.table.resolve "order" { t with value := "0" } p.context := by
  obtain ⟨p, created⟩ := exists_create_default
  have stands : p.values.get? "order" "none" = some "0" := by
    obtain ⟨-, colors, made, rfl⟩ := create_ok_iff.mp created
    exact (get?_withColors_eq_some_iff made).mpr (.forOne (by decide +kernel))
  exact ⟨p, created, stands, substitution_is_final created stands⟩

end UtilityCss.Preset
