import UtilityCss.Proofs.Color.Format
import UtilityCss.Proofs.Preset.Basic
import UtilityCss.Proofs.Preset.NamedValue
import UtilityCss.Proofs.Utility.ColorChannel

/-!
# Shades with an opacity in every utility

In a preset a shade has one value, the color of the library, and in each of the nine utilities that take
a color an opacity is put into it in the same way.
-/
namespace UtilityCss.Preset

open UtilityCss.Utility UtilityCss.Palette UtilityCss.Color UtilityCss.Text

variable {config : Config} {p : Preset}

/-- A name of a shade is resolved as the color that the library has for it. -/
theorem resolve_of_library {colors : OrderedMap String String} {color value : String} {step : Step}
    (shade : colors.get? (shadeName color step) = some value) (utility : String)
    (t : Utility.Token) (named : t.value = shadeName color step) :
    (ofLibrary config colors).resolve utility t =
      builtinTable.resolve utility { t with value := value } ⟨config.sizing, config.format⟩ := by
  refine resolve_of_get?_eq_some (ofLibrary config colors) ?_
  rw [named]
  exact (get?_withColors_shadeName colors utility color step).trans shade

/-- In every preset, each utility that takes a color declares a shade with an opacity as the color of the
library with the opacity before the closing parenthesis. -/
theorem resolve_shade_with_opacity (created : (create config).result = .ok p) {color : String}
    (known : color ∈ builtinColors.map Prod.fst ∨ color ∈ config.colors.keys) (step : Step)
    {alpha unit : String} (present : alpha ≠ "") (alphaOneItem : ';' ∉ alpha.toList)
    (unitOneItem : ';' ∉ unit.toList) :
    ∃ colors front,
      (library config.colors config.format config.adjustments).result = .ok colors ∧
      colors.get? (shadeName color step) = some (front ++ ")") ∧
      ∀ utility property, (utility, property) ∈ colorProperties →
        ∃ r, p.resolve utility ⟨"", shadeName color step, "", alpha, unit⟩ = some r ∧
          r.declarations =
            [⟨property, front ++ " / " ++ alpha ++ (if unit = "" then "%" else unit) ++ ")"⟩] := by
  obtain ⟨-, colors, made, rfl⟩ := create_ok_iff.mp created
  obtain ⟨rgb, shade⟩ := exists_get?_library made ((mem_keys_allColors _ _).mpr known) step
  obtain ⟨arguments, written, composed⟩ :=
    exists_composeAlpha_wrap config.format rgb unit present
  refine ⟨colors, config.format.name ++ "(" ++ arguments, made, written ▸ shade, ?_⟩
  intro utility property listed
  rw [resolve_of_library shade utility _ rfl, ← composed]
  -- The composed text has to survive the reading of printed declarations.
  have enclosed : ∃ body, composeAlpha (config.format.wrap rgb) alpha unit config.format =
      config.format.name ++ body ++ ")" :=
    ⟨"(" ++ arguments ++ " / " ++ alpha ++ (if unit = "" then "%" else unit), by
      rw [composed]
      simp only [String.append_assoc]⟩
  obtain ⟨body, enclosed⟩ := enclosed
  refine resolve_color listed rfl (isColor_wrap config.format rgb) ?oneItem ?trimmed ?visible
  case oneItem =>
    exact oneItem_composeAlpha (notMem_separator_wrap config.format rgb) alphaOneItem unitOneItem
  case trimmed =>
    rw [colorValue, enclosed]
    exact trimmed_of_format config.format body
  case visible =>
    rw [colorValue, enclosed]
    simp

/-- The base shade of a built-in color at half opacity, in the preset that sets nothing. -/
theorem resolve_red_with_half_opacity :
    ∃ p, (create {}).result = .ok p ∧
      ("red" ∈ builtinColors.map Prod.fst ∨ "red" ∈ (OrderedMap.empty : Colors).keys) ∧
      "50" ≠ "" ∧ ';' ∉ "50".toList ∧ ';' ∉ "".toList ∧
      ∃ colors front, (library .empty default default).result = .ok colors ∧
        colors.get? (shadeName "red" .s500) = some (front ++ ")") ∧
        ∀ utility property, (utility, property) ∈ colorProperties →
          ∃ r, p.resolve utility ⟨"", shadeName "red" .s500, "", "50", ""⟩ = some r ∧
            r.declarations = [⟨property, front ++ " / " ++ "50" ++ "%" ++ ")"⟩] := by
  obtain ⟨p, created⟩ := exists_create_default
  have known : "red" ∈ builtinColors.map Prod.fst := by decide
  refine ⟨p, created, Or.inl known, by decide, by decide, by decide, ?_⟩
  exact resolve_shade_with_opacity created (Or.inl known) .s500 (by decide) (by decide) (by decide)

end UtilityCss.Preset
