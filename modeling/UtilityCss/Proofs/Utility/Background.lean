import UtilityCss.Proofs.Utility.Rule
import UtilityCss.Proofs.Utility.Table

/-!
# When a background color is written as a color

The property and the value of a background are picked in two places. They agree for every key that
names a sub-property and for tokens without a key. An unknown key counts as no key for the property, but
not for the value: a color is then assigned as it stands, without its opacity.
-/
namespace UtilityCss.Utility

open UtilityCss.Color

/-- One rule sets the color. -/
theorem color_of_outcome : ∀ r ∈ backgroundRules, r.outcome = "backgroundColor" →
    r.key = "color" ∧ r.accepts = isColorToken := by
  simp [backgroundRules]

/-- The key for colors selects the color, and without a key that says something a color does. -/
theorem backgroundProperty_eq_iff (t : Token) :
    backgroundProperty t = "backgroundColor" ↔
      t.key = "color" ∨ ¬ t.HasKeyOf backgroundRules ∧ isColorToken t = true := by
  constructor
  · intro same
    cases named : keyed? backgroundRules t with
    | some r =>
      left
      obtain ⟨inside, key, -⟩ := of_keyed?_eq_some named
      rw [backgroundProperty, firstMatch_of_keyed? named] at same
      rw [← key]
      exact (color_of_outcome r inside same).1
    | none =>
      right
      have unknown := keyed?_eq_none_iff.mp named
      have selected : firstMatch backgroundRules t = some "backgroundColor" := by
        rw [backgroundProperty] at same
        cases outcome : firstMatch backgroundRules t with
        | none => simp [outcome] at same
        | some o => simpa [outcome] using same
      rw [firstMatch_of_unknown unknown] at selected
      obtain ⟨r, found, outcome⟩ := Option.map_eq_some_iff.mp selected
      have accepts := (color_of_outcome r (List.mem_of_find?_eq_some found) outcome).2
      exact ⟨unknown, by simpa [accepts] using List.find?_some found⟩
  · rintro (key | ⟨unknown, color⟩)
    · simp [backgroundProperty, firstMatch, keyed?, backgroundRules, key]
    · rw [backgroundProperty, firstMatch_of_unknown unknown]
      simp [backgroundRules, color]

/-- The value is written as a color for the key of colors and for colors without a key. -/
def WritesColor (t : Token) : Prop := t.key = "color" ∨ t.key = "" ∧ isColorToken t = true

instance decidableWritesColor (t : Token) : Decidable (WritesColor t) :=
  inferInstanceAs (Decidable (_ ∨ _))

theorem backgroundValue_of_ne {t : Token} (context : Context) (present : t.value ≠ "") :
    backgroundValue t context =
      some (if WritesColor t then colorValue t context else t.joined) := by
  unfold backgroundValue WritesColor
  by_cases key : t.key = "color"
  · simp [present, key]
  · by_cases unkeyed : t.key = "" <;> by_cases color : isColorToken t = true <;>
      simp [present, key, unkeyed, color]

/-- An opacity that is put in changes the text, whatever is appended to the old one. -/
theorem composeAlpha_ne_append {value alpha : String} {format : Format} (unit suffix : String)
    (notCurrent : value ≠ currentKeyword) (accepts : format.acceptsAlpha value = true)
    (present : alpha ≠ "") : composeAlpha value alpha unit format ≠ value ++ suffix := by
  have closing : value.toList.getLast? = some ')' := by
    simp only [Format.acceptsAlpha, Bool.and_eq_true, beq_iff_eq] at accepts
    exact accepts.1.2
  obtain ⟨front, written⟩ := List.getLast?_eq_some_iff.mp closing
  rw [composeAlpha, if_neg (by simpa using notCurrent), accepts, if_neg (by simpa using present)]
  intro same
  -- Behind the common part one text goes on with a space and the other with a parenthesis.
  have differ := congrArg String.toList same
  simp [written] at differ

/-- A color stands as it is, unit and all, exactly when no keyword is replaced and no opacity put in. -/
theorem colorValue_eq_joined_iff (t : Token) (context : Context) :
    colorValue t context = t.joined ↔
      if t.value = currentKeyword then t.unit = "Color"
      else t.unit = "" ∧ (context.format.acceptsAlpha t.value = true → t.secondValue = "") := by
  have noUnit : t.value = t.value ++ t.unit ↔ t.unit = "" := by
    rw [eq_comm, String.append_eq_left_iff]
  by_cases current : t.value = currentKeyword
  · have written : colorValue t context = currentKeyword ++ "Color" := by
      simp [colorValue, composeAlpha, current]
      rfl
    rw [if_pos current, written, Token.joined, current, String.append_right_inj, eq_comm]
  · rw [if_neg current]
    by_cases composed : context.format.acceptsAlpha t.value = true ∧ t.secondValue ≠ ""
    · have differ : colorValue t context ≠ t.joined :=
        composeAlpha_ne_append _ _ current composed.1 composed.2
      simp [differ, composed]
    · have free : context.format.acceptsAlpha t.value = true → t.secondValue = "" := by
        intro accepts
        exact Decidable.byContradiction fun present => composed ⟨accepts, present⟩
      have kept : colorValue t context = t.value := by
        rw [colorValue, composeAlpha, if_neg (by simpa using current)]
        by_cases accepts : context.format.acceptsAlpha t.value = true
        · simp [accepts, free accepts]
        · simp [accepts]
      rw [kept, Token.joined, noUnit]
      exact ⟨fun unit => ⟨unit, free⟩, And.left⟩

/-- The key is unknown and the value is a color that does not stand as it is: it should be another
keyword, has a unit to drop or an opacity to take in. -/
def LosesColor (t : Token) (context : Context) : Prop :=
  t.key ≠ "" ∧ t.key ∉ backgroundRules.map Rule.key ∧ isColorToken t = true ∧
    if t.value = currentKeyword then t.unit ≠ "Color"
    else t.unit ≠ "" ∨ context.format.acceptsAlpha t.value = true ∧ t.secondValue ≠ ""

/-- A color is lost where the property is picked for a color and the value is not. -/
theorem losesColor_iff (t : Token) (context : Context) :
    LosesColor t context ↔
      ¬ WritesColor t ∧ backgroundProperty t = "backgroundColor" ∧
        colorValue t context ≠ t.joined := by
  have changed : colorValue t context ≠ t.joined ↔
      if t.value = currentKeyword then t.unit ≠ "Color"
      else t.unit ≠ "" ∨ context.format.acceptsAlpha t.value = true ∧ t.secondValue ≠ "" := by
    rw [ne_eq, colorValue_eq_joined_iff]
    split
    · exact Iff.rfl
    · rw [Decidable.not_and_iff_not_or_not, Decidable.not_imp_iff_and_not]
  rw [LosesColor, changed, backgroundProperty_eq_iff, WritesColor, Token.HasKeyOf]
  have known : "color" ∈ backgroundRules.map Rule.key := by simp [backgroundRules]
  constructor
  · rintro ⟨named, unknown, color, change⟩
    refine ⟨?_, Or.inr ⟨fun has => unknown has.2, color⟩, change⟩
    rintro (key | ⟨unkeyed, -⟩)
    · exact unknown (key ▸ known)
    · exact named unkeyed
  · rintro ⟨unwritten, key | ⟨unknown, color⟩, change⟩
    · exact absurd (Or.inl key) unwritten
    · have named : t.key ≠ "" := fun unkeyed => unwritten (Or.inr ⟨unkeyed, color⟩)
      exact ⟨named, fun has => unknown ⟨named, has⟩, color, change⟩

theorem entry?_bg : builtinTable.entry? "bg" = some background := by
  rw [entry?_builtinTable]
  rfl

theorem resolve_bg {t : Token} (context : Context) (present : t.value ≠ "") :
    builtinTable.resolve "bg" t context = some (.properties [backgroundProperty t]
      (if WritesColor t then colorValue t context else t.joined)) := by
  rw [PropertyTable.resolve_of_found entry?_bg, background, Entry.resolve, ValueSpec.value?,
    backgroundValue_of_ne context present]
  rfl

/-- A background with a value sets one property: the color with its opacity if that is the background
color, else the text as it stands. This fails exactly for the colors that an unknown key hides, which are
set as they stand. -/
theorem background_agrees_iff (t : Token) (context : Context) (present : t.value ≠ "") :
    ∃ property value, builtinTable.resolve "bg" t context = some (.properties [property] value) ∧
      ((property = "backgroundColor" →
          value = composeAlpha t.value t.secondValue t.secondUnit context.format) ∧
        (property ≠ "backgroundColor" → value = t.joined) ↔ ¬ LosesColor t context) ∧
      (LosesColor t context → property = "backgroundColor" ∧ value = t.joined) := by
  refine ⟨_, _, resolve_bg context present, ?_⟩
  rw [losesColor_iff]
  by_cases writes : WritesColor t
  · have color : backgroundProperty t = "backgroundColor" := by
      rw [backgroundProperty_eq_iff]
      rcases writes with key | ⟨unkeyed, color⟩
      · exact Or.inl key
      · exact Or.inr ⟨not_hasKeyOf_of_unkeyed unkeyed, color⟩
    rw [if_pos writes]
    exact ⟨⟨fun _ lost => lost.1 writes, fun _ => ⟨fun _ => rfl, fun other => absurd color other⟩⟩,
      fun lost => absurd writes lost.1⟩
  · rw [if_neg writes]
    refine ⟨⟨?_, ?_⟩, fun lost => ⟨lost.2.1, rfl⟩⟩
    · rintro ⟨agrees, -⟩ ⟨-, color, change⟩
      exact change (agrees color).symm
    · intro kept
      refine ⟨fun color => ?_, fun _ => rfl⟩
      exact Decidable.byContradiction fun change =>
        kept ⟨writes, color, fun same => change same.symm⟩

/-- A color without a key is set with its opacity. -/
theorem background_agrees_for_written_color :
    ¬ LosesColor ⟨"", "rgb(1 2 3)", "", "50", ""⟩ ⟨0.25, .rgb⟩ ∧
    ∃ property value,
      builtinTable.resolve "bg" ⟨"", "rgb(1 2 3)", "", "50", ""⟩ ⟨0.25, .rgb⟩ =
        some (.properties [property] value) ∧
      (property = "backgroundColor" → value = composeAlpha "rgb(1 2 3)" "50" "" .rgb) ∧
      (property ≠ "backgroundColor" → value = "rgb(1 2 3)" ++ "") := by
  have kept : ¬ LosesColor ⟨"", "rgb(1 2 3)", "", "50", ""⟩ ⟨0.25, .rgb⟩ := fun lost => lost.1 rfl
  obtain ⟨property, value, resolved, agrees, -⟩ :=
    background_agrees_iff ⟨"", "rgb(1 2 3)", "", "50", ""⟩ ⟨0.25, .rgb⟩ (by decide)
  exact ⟨kept, property, value, resolved, agrees.mpr kept⟩

/-- Under an unknown key the keyword for the text color is set as it stands. -/
theorem background_loses_current_under_unknown_key :
    builtinTable.resolve "bg" ⟨"zz", "current", "", "", ""⟩ {} =
      some (.properties ["backgroundColor"] "current") ∧
    composeAlpha "current" "" "" default = "currentColor" := by
  have resolved := @resolve_bg ⟨"zz", "current", "", "", ""⟩ {} (by decide)
  have color : backgroundProperty ⟨"zz", "current", "", "", ""⟩ = "backgroundColor" := by
    decide +kernel
  refine ⟨?_, by decide +kernel⟩
  rw [resolved, color, if_neg (by decide +kernel)]
  rfl

end UtilityCss.Utility
