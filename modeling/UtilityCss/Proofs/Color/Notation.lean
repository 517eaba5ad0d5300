import UtilityCss.Color.Literal
import UtilityCss.Proofs.Color.Opacity

/-!
# The notation that takes in an opacity

A color is in the notation of a format if an opening parenthesis follows the name of the format. What has
room for an opacity need not be: the name may go on, and then an opacity is put into a color of another
notation. Among the functions that count as colors without being read these are the ones whose name ends
in a letter for their own opacity.
-/
namespace UtilityCss.Color

/-- The text is in the functional notation of the format, without an opacity. -/
structure Format.Writes (format : Format) (value : String) : Prop where
  opening : (format.name ++ "(").toList <+: value.toList
  closing : value.toList.getLast? = some ')'
  free : '/' ∉ value.toList

/-- The text is taken for one of the format, although something else follows the name. -/
structure Format.Mistakes (format : Format) (value : String) : Prop where
  opening : ∃ c rest, value.toList = format.name.toList ++ c :: rest ∧ c ≠ '('
  closing : value.toList.getLast? = some ')'
  free : '/' ∉ value.toList

variable {value alpha unit : String} {format : Format}

theorem acceptsAlpha_iff : format.acceptsAlpha value = true ↔
    format.name.toList <+: value.toList ∧ value.toList.getLast? = some ')' ∧ '/' ∉ value.toList := by
  simp [Format.acceptsAlpha, List.isPrefixOf_iff_prefix, and_assoc]

theorem writes_iff_of_cons {c : Char} {rest : List Char}
    (named : value.toList = format.name.toList ++ c :: rest) :
    (format.name ++ "(").toList <+: value.toList ↔ c = '(' := by
  rw [named, String.toList_append, List.prefix_append_right_inj]
  simp [eq_comm]

/-- No name of a format ends with a parenthesis, so something follows it. -/
theorem exists_cons_of_acceptsAlpha (accepts : format.acceptsAlpha value = true) :
    ∃ c rest, value.toList = format.name.toList ++ c :: rest := by
  obtain ⟨body, written⟩ := exists_of_acceptsAlpha accepts
  have filled : (body ++ ")").toList ≠ [] := by simp
  obtain ⟨c, rest, more⟩ := List.exists_cons_of_ne_nil filled
  rw [written, String.append_assoc, String.toList_append, more]
  exact ⟨c, rest, rfl⟩

/-- What has room for an opacity is in the notation of the format, or is taken for it. -/
theorem acceptsAlpha_iff_writes_or_mistakes :
    format.acceptsAlpha value = true ↔ format.Writes value ∨ format.Mistakes value := by
  constructor
  · intro accepts
    obtain ⟨-, closing, free⟩ := acceptsAlpha_iff.mp accepts
    obtain ⟨c, rest, named⟩ := exists_cons_of_acceptsAlpha accepts
    by_cases parenthesis : c = '('
    · exact Or.inl ⟨(writes_iff_of_cons named).mpr parenthesis, closing, free⟩
    · exact Or.inr ⟨⟨c, rest, named, parenthesis⟩, closing, free⟩
  · rintro (⟨opening, closing, free⟩ | ⟨⟨c, rest, named, -⟩, closing, free⟩)
    · rw [String.toList_append] at opening
      exact acceptsAlpha_iff.mpr ⟨(List.prefix_append _ _).trans opening, closing, free⟩
    · exact acceptsAlpha_iff.mpr ⟨named ▸ List.prefix_append _ _, closing, free⟩

theorem Format.Mistakes.not_writes (mistakes : format.Mistakes value) : ¬ format.Writes value := by
  obtain ⟨⟨c, rest, named, other⟩, -, -⟩ := mistakes
  exact fun writes => other ((writes_iff_of_cons named).mp writes.opening)

/-! ## Functions that count as colors -/

/-- The functions that carry an opacity of their own, each with the format that its name begins with. -/
def longerFunctions : List (String × Format) := [("rgba(", .rgb), ("hsla(", .hsl)]

/-- A name without a parenthesis that begins a function begins what stands before the arguments. -/
theorem exists_cons_iff_of_opening {name opening arguments : List Char} (plain : '(' ∉ name)
    (opened : '(' ∈ opening) :
    (∃ c rest, opening ++ arguments = name ++ c :: rest ∧ c ≠ '(') ↔
      name <+: opening ∧ (opening.drop name.length).head? ≠ some '(' := by
  have further {more : List Char} (inside : '(' ∈ name ++ more) : more ≠ [] := by
    rintro rfl
    exact plain (by simpa using inside)
  constructor
  · rintro ⟨c, rest, same, other⟩
    have named : name <+: opening := by
      have start : name <+: opening ++ arguments := same ▸ List.prefix_append _ _
      rcases List.prefix_or_prefix_of_prefix start (List.prefix_append opening arguments) with h | h
      · exact h
      · exact absurd (h.subset opened) plain
    obtain ⟨more, rfl⟩ := named
    obtain ⟨d, more, rfl⟩ := List.exists_cons_of_ne_nil (further opened)
    simp only [List.append_assoc, List.cons_append, List.append_cancel_left_eq, List.cons.injEq] at same
    exact ⟨List.prefix_append _ _, by simpa [same.1] using other⟩
  · rintro ⟨⟨more, rfl⟩, other⟩
    obtain ⟨d, more, rfl⟩ := List.exists_cons_of_ne_nil (further opened)
    exact ⟨d, more ++ arguments, by simp, by simpa using other⟩

theorem notMem_name (format : Format) : '(' ∉ format.name.toList := by
  cases format <;> decide

theorem mem_longerFunctions_iff (format : Format) : ∀ opening ∈ colorFunctions,
    (format.name.toList <+: opening.toList ∧
      (opening.toList.drop format.name.toList.length).head? ≠ some '(') ↔
        (opening, format) ∈ longerFunctions := by
  cases format <;> decide

theorem opened_of_mem_colorFunctions : ∀ opening ∈ colorFunctions,
    '(' ∈ opening.toList ∧ '/' ∉ opening.toList := by
  decide

/-- Of the functions that count as colors, a format takes the one for its own that has its name and one
more letter. -/
theorem mistakes_function_iff {opening : String} (known : opening ∈ colorFunctions)
    (arguments : String) :
    format.Mistakes (opening ++ arguments ++ ")") ↔
      '/' ∉ arguments.toList ∧ (opening, format) ∈ longerFunctions := by
  obtain ⟨opened, noSlash⟩ := opened_of_mem_colorFunctions opening known
  have whole : (opening ++ arguments ++ ")").toList = opening.toList ++ (arguments ++ ")").toList := by
    rw [String.append_assoc, String.toList_append]
  have closing : (opening ++ arguments ++ ")").toList.getLast? = some ')' := by
    rw [String.toList_append]
    exact List.getLast?_concat
  have free : '/' ∉ (opening ++ arguments ++ ")").toList ↔ '/' ∉ arguments.toList := by
    simp [noSlash]
  rw [← mem_longerFunctions_iff format opening known,
    ← exists_cons_iff_of_opening (notMem_name format) opened, ← whole, ← free]
  exact ⟨fun taken => ⟨taken.free, taken.opening⟩, fun ⟨free, longer⟩ => ⟨longer, closing, free⟩⟩

/-- An opacity is put into a text exactly if it is in the notation of the format or taken for it, so that it
stays in that notation exactly where nothing is taken for it. Of the functions that count as colors,
those of the longer names are taken for it, unless they have a slash. -/
theorem opacity_stays_in_notation_iff (value alpha unit : String) (format : Format)
    (other : value ≠ currentKeyword) (present : alpha ≠ "") :
    ((composeAlpha value alpha unit format ≠ value → format.Writes value) ↔
      ¬ format.Mistakes value) ∧
    (composeAlpha value alpha unit format ≠ value ↔ format.Writes value ∨ format.Mistakes value) ∧
    ∀ opening ∈ colorFunctions, ∀ arguments : String,
      format.Mistakes (opening ++ arguments ++ ")") ↔
        '/' ∉ arguments.toList ∧
          (opening = "rgba(" ∧ format = .rgb ∨ opening = "hsla(" ∧ format = .hsl) := by
  have changed : composeAlpha value alpha unit format ≠ value ↔
      format.Writes value ∨ format.Mistakes value := by
    rw [composeAlpha_ne_self_iff unit other, and_iff_left present, acceptsAlpha_iff_writes_or_mistakes]
  refine ⟨?_, changed, ?_⟩
  · rw [changed]
    constructor
    · exact fun stays mistakes => mistakes.not_writes (stays (Or.inr mistakes))
    · exact fun never taken => taken.resolve_right never
  · intro opening known arguments
    rw [mistakes_function_iff known]
    simp [longerFunctions]

/-- A color in the notation itself takes in an opacity. -/
theorem opacity_stays_in_rgb : "rgb(1 2 3)" ≠ currentKeyword ∧ "50" ≠ "" ∧
    composeAlpha "rgb(1 2 3)" "50" "" .rgb ≠ "rgb(1 2 3)" ∧ Format.rgb.Writes "rgb(1 2 3)" ∧
    ¬ Format.rgb.Mistakes "rgb(1 2 3)" := by
  have other : "rgb(1 2 3)" ≠ currentKeyword := by decide
  have present : "50" ≠ "" := by decide
  have writes : Format.rgb.Writes "rgb(1 2 3)" := ⟨by decide, by decide, by decide⟩
  obtain ⟨stays, changed, -⟩ := opacity_stays_in_notation_iff "rgb(1 2 3)" "50" "" .rgb other present
  exact ⟨other, present, changed.mpr (Or.inl writes), writes, stays.mp fun _ => writes⟩

/-- A color with an opacity of its own is given another one. -/
theorem opacity_goes_into_rgba :
    composeAlpha "rgba(1,2,3,0.5)" "50" "" .rgb = "rgba(1,2,3,0.5 / 50%)" ∧
    composeAlpha "hsla(1,2%,3%,0.5)" "50" "" .hsl = "hsla(1,2%,3%,0.5 / 50%)" ∧
    ¬ Format.rgb.Writes "rgba(1,2,3,0.5)" ∧ ¬ Format.hsl.Writes "hsla(1,2%,3%,0.5)" := by
  refine ⟨by decide +kernel, by decide +kernel, ?_, ?_⟩
  · exact fun writes => absurd writes.opening (by decide)
  · exact fun writes => absurd writes.opening (by decide)

end UtilityCss.Color
