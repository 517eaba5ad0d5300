import UtilityCss.Proofs.Color.Alpha

/-!
# An opacity is put in once

What is put into a text stands before its last character and begins with a slash, and a text with a slash
has no room for an opacity. So a second opacity changes nothing, and without what was put in the text is
the old one again. No text has room in two formats. The opacity itself may be any text.
-/
namespace UtilityCss.Color

/-- What is put into a color: the opacity behind a slash; without a unit it is a percentage. -/
def opacityPart (alpha unit : String) : String :=
  " / " ++ alpha ++ (if unit = "" then "%" else unit)

variable {value alpha unit : String} {format : Format}

/-! ## What comes out -/

theorem composeAlpha_current (alpha unit : String) (format : Format) :
    composeAlpha currentKeyword alpha unit format = "currentColor" := by
  rw [composeAlpha, if_pos (beq_self_eq_true currentKeyword)]

/-- Without room, or without an opacity, a text is passed through. -/
theorem composeAlpha_of_full (unit : String) (other : value ≠ currentKeyword)
    (full : ¬ (format.acceptsAlpha value = true ∧ alpha ≠ "")) :
    composeAlpha value alpha unit format = value := by
  have passed : (!format.acceptsAlpha value || alpha.isEmpty) = true := by
    simpa [Decidable.imp_iff_not_or] using full
  rw [composeAlpha, if_neg (by simpa using other), if_pos passed]

/-- An opacity goes before the closing parenthesis of a text that has room for it. -/
theorem exists_composeAlpha (unit : String) (other : value ≠ currentKeyword)
    (accepts : format.acceptsAlpha value = true) (present : alpha ≠ "") :
    ∃ front, value = front ++ ")" ∧
      composeAlpha value alpha unit format = front ++ opacityPart alpha unit ++ ")" := by
  obtain ⟨body, rfl⟩ := exists_of_acceptsAlpha accepts
  refine ⟨format.name ++ body, rfl, ?_⟩
  have front : (format.name ++ body ++ ")").toList.dropLast = (format.name ++ body).toList := by
    rw [String.toList_append]
    exact List.dropLast_concat
  rw [composeAlpha, if_neg (by simpa using other), accepts, if_neg (by simpa using present), front,
    String.ofList_toList, opacityPart]
  simp only [String.append_assoc, String.isEmpty_iff]

/-- A text is changed exactly if it has room for an opacity and there is one. -/
theorem composeAlpha_ne_self_iff (unit : String) (other : value ≠ currentKeyword) :
    composeAlpha value alpha unit format ≠ value ↔
      format.acceptsAlpha value = true ∧ alpha ≠ "" := by
  constructor
  · intro changed
    exact Decidable.byContradiction fun full => changed (composeAlpha_of_full unit other full)
  · rintro ⟨accepts, present⟩ same
    obtain ⟨front, written, composed⟩ := exists_composeAlpha unit other accepts present
    rw [written, ← written, composed, written, String.append_left_inj, String.append_eq_left_iff] at same
    exact absurd (congrArg String.toList same) (by simp [opacityPart])

/-! ## A second opacity -/

/-- A slash leaves no room. -/
theorem acceptsAlpha_of_slash (slash : '/' ∈ value.toList) : format.acceptsAlpha value = false := by
  simp [Format.acceptsAlpha, slash]

theorem currentColor_is_full : format.acceptsAlpha "currentColor" = false := by
  cases format <;> decide

theorem slash_mem_opacityPart (alpha unit : String) : '/' ∈ (opacityPart alpha unit).toList := by
  simp [opacityPart]

/-- Nothing is put into what has taken in an opacity. -/
theorem composeAlpha_composeAlpha (unit alpha' unit' : String) (present : alpha ≠ "") :
    composeAlpha (composeAlpha value alpha unit format) alpha' unit' format =
      composeAlpha value alpha unit format := by
  by_cases current : value = currentKeyword
  · rw [current, composeAlpha_current]
    exact composeAlpha_of_full unit' (by decide) (by simp [currentColor_is_full])
  by_cases accepts : format.acceptsAlpha value = true
  · obtain ⟨front, -, composed⟩ := exists_composeAlpha unit current accepts present
    have slash : '/' ∈ (composeAlpha value alpha unit format).toList := by
      rw [composed, String.toList_append, String.toList_append]
      exact List.mem_append_left _ (List.mem_append_right _ (slash_mem_opacityPart alpha unit))
    have other : composeAlpha value alpha unit format ≠ currentKeyword := by
      intro same
      rw [same] at slash
      exact absurd slash (by decide)
    exact composeAlpha_of_full unit' other (by simp [acceptsAlpha_of_slash slash])
  · rw [composeAlpha_of_full unit current (by simp [accepts])]
    exact composeAlpha_of_full unit' current (by simp [accepts])

/-! ## One format -/

/-- The names of the formats differ in their first letter. -/
theorem eq_of_acceptsAlpha {first second : Format} (one : first.acceptsAlpha value = true)
    (two : second.acceptsAlpha value = true) : first = second := by
  obtain ⟨body, written⟩ := exists_of_acceptsAlpha one
  obtain ⟨body', written'⟩ := exists_of_acceptsAlpha two
  have same : (first.name ++ body ++ ")").toList.head? = (second.name ++ body' ++ ")").toList.head? := by
    rw [← written, ← written']
  have named (format : Format) (body : String) :
      (format.name ++ body ++ ")").toList.head? = format.name.toList.head? := by
    cases format <;> simp [Format.name]
  rw [named, named] at same
  revert same
  cases first <;> cases second <;> decide

/-- A second opacity changes nothing. A text that an opacity was put into is the old one but for what was
put in before its closing parenthesis, and has room in one format only. -/
theorem opacity_is_put_in_once (value alpha unit alpha' unit' : String) (format : Format)
    (present : alpha ≠ "") :
    composeAlpha (composeAlpha value alpha unit format) alpha' unit' format =
      composeAlpha value alpha unit format ∧
    (value ≠ currentKeyword → composeAlpha value alpha unit format ≠ value →
      ∃ front, value = front ++ ")" ∧
        composeAlpha value alpha unit format =
          front ++ (" / " ++ alpha ++ (if unit = "" then "%" else unit)) ++ ")") ∧
    ∀ first second : Format, first.acceptsAlpha value = true → second.acceptsAlpha value = true →
      first = second := by
  refine ⟨composeAlpha_composeAlpha unit alpha' unit' present, ?_, fun _ _ => eq_of_acceptsAlpha⟩
  intro other changed
  obtain ⟨accepts, -⟩ := (composeAlpha_ne_self_iff unit other).mp changed
  exact exists_composeAlpha unit other accepts present

/-- An opacity that looks like the end of a color and the beginning of another. -/
theorem opacity_of_odd_text_is_put_in_once :
    ")/rgb(" ≠ "" ∧ composeAlpha "rgb(1 2 3)" ")/rgb(" "" .rgb = "rgb(1 2 3 / )/rgb(%)" ∧
    composeAlpha (composeAlpha "rgb(1 2 3)" ")/rgb(" "" .rgb) "50" "px" .rgb =
      composeAlpha "rgb(1 2 3)" ")/rgb(" "" .rgb ∧
    ∃ front, "rgb(1 2 3)" = front ++ ")" ∧
      composeAlpha "rgb(1 2 3)" ")/rgb(" "" .rgb = front ++ (" / " ++ ")/rgb(" ++ "%") ++ ")" := by
  have present : ")/rgb(" ≠ "" := by decide
  have composed : composeAlpha "rgb(1 2 3)" ")/rgb(" "" .rgb = "rgb(1 2 3 / )/rgb(%)" := by
    decide +kernel
  obtain ⟨once, removed, -⟩ :=
    opacity_is_put_in_once "rgb(1 2 3)" ")/rgb(" "" "50" "px" .rgb present
  have changed : composeAlpha "rgb(1 2 3)" ")/rgb(" "" .rgb ≠ "rgb(1 2 3)" := by
    rw [composed]
    decide
  exact ⟨present, composed, once, removed (by decide) changed⟩

end UtilityCss.Color
