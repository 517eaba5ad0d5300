import UtilityCss.Proofs.Decimal.Text
import UtilityCss.Proofs.Value.Template
import UtilityCss.Utility.ColorValue

/-!
# What the values of utilities are made of

A value is put together from the parts of a token and fixed texts. It has no semicolon if the token has
none, and something is left of it when it is trimmed if a part of it is not blank.
-/
namespace UtilityCss.Utility

open UtilityCss.Text UtilityCss.Color

/-- The text stays inside one item of a printed list. -/
def OneItem (text : String) : Prop := ';' ∉ text.toList

/-- Something is left of the text when it is trimmed. -/
def Visible (text : String) : Prop := ∃ c ∈ text.toList, isCssBlank c = false

instance decidableOneItem (text : String) : Decidable (OneItem text) :=
  inferInstanceAs (Decidable (¬ _))

theorem any_eq_true_iff_visible {text : String} :
    (text.toList.any fun c => !isCssBlank c) = true ↔ Visible text := by
  simp [Visible]

instance decidableVisible (text : String) : Decidable (Visible text) :=
  decidable_of_iff _ any_eq_true_iff_visible

theorem OneItem.ofList {cs : List Char} (h : ';' ∉ cs) : OneItem (String.ofList cs) := by
  rw [OneItem, String.toList_ofList]
  exact h

theorem Visible.ofList {cs : List Char} (h : (cs.any fun c => !isCssBlank c) = true) :
    Visible (String.ofList cs) := by
  rw [← any_eq_true_iff_visible, String.toList_ofList]
  exact h

theorem oneItem_append {a b : String} : OneItem (a ++ b) ↔ OneItem a ∧ OneItem b := by
  simp [OneItem]

theorem visible_append {a b : String} : Visible (a ++ b) ↔ Visible a ∨ Visible b := by
  simp [Visible, or_and_right, exists_or]

theorem append_ne_empty {a b : String} (present : a ≠ "") : a ++ b ≠ "" := by
  intro empty
  exact present (String.append_eq_empty_iff.mp empty).1

theorem mem_of_lookup_eq_some {β : Type} {table : List (String × β)} {name : String} {v : β}
    (found : table.lookup name = some v) : (name, v) ∈ table := by
  obtain ⟨before, after, split, -⟩ := List.lookup_eq_some_iff.mp found
  simp [split]

/-- What holds of all values of a table and of the text that stands in for them holds of the result. -/
theorem of_lookup_getD {β : Type} {P : β → Prop} {table : List (String × β)} {name : String}
    {otherwise : β} (all : ∀ e ∈ table, P e.2) (rest : P otherwise) :
    P ((table.lookup name).getD otherwise) := by
  cases found : table.lookup name with
  | none => exact rest
  | some v => exact all _ (mem_of_lookup_eq_some found)

/-! ## Tokens -/

/-- All parts of a token. -/
def Token.parts (t : Token) : List String := [t.key, t.value, t.unit, t.secondValue, t.secondUnit]

/-- No part holds a semicolon. -/
def Token.OneItem (t : Token) : Prop := ∀ part ∈ t.parts, Utility.OneItem part

/-- No part holds white space of a style sheet. -/
def Token.Unbroken (t : Token) : Prop := ∀ part ∈ t.parts, ∀ c ∈ part.toList, isCssBlank c = false

instance decidableTokenOneItem (t : Token) : Decidable t.OneItem :=
  inferInstanceAs (Decidable (∀ part ∈ t.parts, _))

theorem all_eq_true_iff_unbroken {t : Token} :
    (t.parts.all fun part => part.toList.all fun c => !isCssBlank c) = true ↔ t.Unbroken := by
  simp [Token.Unbroken]

instance decidableUnbroken (t : Token) : Decidable t.Unbroken :=
  decidable_of_iff _ all_eq_true_iff_unbroken

variable {t : Token}

theorem Token.joined_ne_empty (present : t.value ≠ "") : t.joined ≠ "" := append_ne_empty present

theorem Token.joined_of_unitless (unitless : t.unit = "") : t.joined = t.value := by
  rw [joined, unitless, String.append_empty]

/-- In a token without white space every part that is present can be seen. -/
theorem Token.Unbroken.visible {part : String} (h : t.Unbroken) (inside : part ∈ t.parts)
    (present : part ≠ "") : Visible part := by
  obtain ⟨c, hc⟩ := List.exists_mem_of_ne_nil part.toList (by simpa using present)
  exact ⟨c, hc, h part inside c hc⟩

theorem Token.Unbroken.value (h : t.Unbroken) (present : t.value ≠ "") : Visible t.value :=
  h.visible (by simp [parts]) present

theorem Token.Unbroken.secondValue (h : t.Unbroken) (present : t.secondValue ≠ "") :
    Visible t.secondValue :=
  h.visible (by simp [parts]) present

theorem Token.Unbroken.joined (h : t.Unbroken) (present : t.value ≠ "") : Visible t.joined :=
  visible_append.mpr (Or.inl (h.value present))

theorem Token.OneItem.value (h : t.OneItem) : Utility.OneItem t.value := h _ (by simp [parts])

theorem Token.OneItem.unit (h : t.OneItem) : Utility.OneItem t.unit := h _ (by simp [parts])

theorem Token.OneItem.secondValue (h : t.OneItem) : Utility.OneItem t.secondValue :=
  h _ (by simp [parts])

theorem Token.OneItem.secondUnit (h : t.OneItem) : Utility.OneItem t.secondUnit :=
  h _ (by simp [parts])

theorem Token.OneItem.joined (h : t.OneItem) : Utility.OneItem t.joined :=
  oneItem_append.mpr ⟨h.value, h.unit⟩

theorem Token.OneItem.secondJoined (h : t.OneItem) : Utility.OneItem t.secondJoined :=
  oneItem_append.mpr ⟨h.secondValue, h.secondUnit⟩

/-! ## Values -/

theorem oneItem_composeAlpha {value alpha unit : String} {format : Format} (hv : OneItem value)
    (ha : OneItem alpha) (hu : OneItem unit) : OneItem (composeAlpha value alpha unit format) := by
  rw [composeAlpha]
  split
  · decide
  · split
    · exact hv
    · have front : OneItem (String.ofList value.toList.dropLast) :=
        OneItem.ofList fun inside => hv ((List.dropLast_sublist _).subset inside)
      have percent : OneItem (if unit.isEmpty then "%" else unit) := by
        split
        · decide
        · exact hu
      simp only [oneItem_append]
      exact ⟨⟨⟨⟨front, by decide⟩, ha⟩, percent⟩, by decide⟩

theorem visible_composeAlpha {value alpha unit : String} {format : Format} (hv : Visible value) :
    Visible (composeAlpha value alpha unit format) := by
  rw [composeAlpha]
  split
  · decide
  · split
    · exact hv
    · exact visible_append.mpr (Or.inr (by decide))

theorem oneItem_colorValue (context : Context) (h : t.OneItem) : OneItem (colorValue t context) :=
  oneItem_composeAlpha h.value h.secondValue h.secondUnit

theorem visible_colorValue (context : Context) (h : t.Unbroken) (present : t.value ≠ "") :
    Visible (colorValue t context) :=
  visible_composeAlpha (h.value present)

theorem colorValue_of_absent (absent : t.value = "") : colorValue t context = "" := by
  have closed : context.format.acceptsAlpha "" = false := by
    cases context.format <;> decide
  rw [colorValue, absent, Color.composeAlpha, closed]
  rfl

/-- The empty text is no color, so that every color has a value. -/
theorem ne_empty_of_isColorToken (color : isColorToken t = true) : t.value ≠ "" := by
  intro absent
  rw [isColorToken, absent] at color
  exact absurd color (by decide)

theorem oneItem_lineWidth (h : t.OneItem) : OneItem (lineWidth t) := by
  rw [lineWidth]
  split
  · decide
  · split
    · exact oneItem_append.mpr ⟨h.value, by decide⟩
    · exact h.joined

theorem boxShadowStack_shown : OneItem boxShadowStack ∧ Visible boxShadowStack :=
  ⟨oneItem_append.mpr ⟨.ofList (by decide), .ofList (by decide)⟩,
    visible_append.mpr (Or.inl (.ofList (by decide)))⟩

theorem oneItem_formatNumber (x : Float) : OneItem (Value.formatNumber x) := by
  rw [Value.formatNumber]
  split
  · decide
  · intro inside
    exact absurd (Decimal.isNumeralChar_of_mem_plain inside) (by decide)

theorem oneItem_substitute {pattern value : String} (hp : OneItem pattern) (hv : OneItem value) :
    OneItem (Value.substitute pattern value) :=
  .ofList (Value.notMem_fill hv hp)

theorem oneItem_scaleSizing {value unit : String} {sizing : Float} (hv : OneItem value)
    (hu : OneItem unit) : OneItem (Value.scaleSizing value unit sizing) := by
  rw [Value.scaleSizing]
  split
  · decide
  · split
    · exact oneItem_append.mpr ⟨oneItem_formatNumber _, by decide⟩
    · exact oneItem_append.mpr ⟨hv, hu⟩

end UtilityCss.Utility
