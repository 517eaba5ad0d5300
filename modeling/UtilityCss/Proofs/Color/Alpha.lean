import UtilityCss.Proofs.Color.Format

/-!
# What an opacity leaves of a text

A text that has room for an opacity is the name of the format, something, and a closing parenthesis; the
opacity goes before the parenthesis. So nothing changes at the ends of a text, except that the keyword for
the text color is spelled out.
-/
namespace UtilityCss.Color

open UtilityCss.Text

/-- A text that has room for an opacity stands between the name of the format and a parenthesis. -/
theorem exists_of_acceptsAlpha {format : Format} {value : String}
    (accepts : format.acceptsAlpha value = true) :
    ∃ body : String, value = format.name ++ body ++ ")" := by
  simp only [Format.acceptsAlpha, Bool.and_eq_true, beq_iff_eq, List.isPrefixOf_iff_prefix] at accepts
  obtain ⟨⟨⟨rest, opening⟩, closing⟩, -⟩ := accepts
  rw [← opening] at closing
  rcases List.eq_nil_or_concat rest with rfl | ⟨body, last, rfl⟩
  · -- No name ends with a parenthesis.
    rw [List.append_nil] at closing
    cases format <;> exact absurd closing (by decide)
  · rw [List.concat_eq_append, ← List.append_assoc] at opening closing
    rw [List.getLast?_concat, Option.some_inj] at closing
    refine ⟨String.ofList body, ?_⟩
    rw [← String.toList_inj, ← opening, closing]
    simp

/-- A color with an opacity is as trimmed as it was without. -/
theorem trimmed_composeAlpha {value alpha unit : String} {format : Format}
    (trimmed : Trimmed isCssBlank value.toList) :
    Trimmed isCssBlank (composeAlpha value alpha unit format).toList := by
  rw [composeAlpha]
  split
  · decide
  · split
    · exact trimmed
    · next composed =>
      have accepts : format.acceptsAlpha value = true := by
        cases given : format.acceptsAlpha value with
        | true => rfl
        | false => simp [given] at composed
      obtain ⟨body, rfl⟩ := exists_of_acceptsAlpha accepts
      have front : (format.name ++ body ++ ")").toList.dropLast = (format.name ++ body).toList := by
        rw [String.toList_append]
        exact List.dropLast_concat
      rw [front, String.ofList_toList]
      have enclosed := trimmed_of_format format
        (body ++ (" / " ++ (alpha ++ if unit.isEmpty then "%" else unit)))
      simpa only [String.append_assoc] using enclosed

end UtilityCss.Color
