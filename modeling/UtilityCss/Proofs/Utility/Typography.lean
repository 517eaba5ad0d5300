import UtilityCss.Proofs.Utility.Rule
import UtilityCss.Proofs.Utility.Shape
import UtilityCss.Utility.Typography

/-!
# Shapes of text, fonts and decorations

These utilities need a value, which the selected rule writes to its property. Whatever rule is selected,
the value can be seen.
-/
namespace UtilityCss.Utility

variable {t : Token} {context : Context} {ds : List Declaration}

/-- What all outcomes of the rules fit, the selected declarations fit. -/
theorem Shape.fits_of_bySelectedRule {shape : Shape}
    {rules : List (Rule (Token → Context → List Declaration))}
    {otherwise : Token → Context → List Declaration}
    (each : t.value ≠ "" → ∀ r ∈ rules, shape.Fits t (r.outcome t context))
    (rest : t.value ≠ "" → shape.Fits t (otherwise t context))
    (h : bySelectedRule rules otherwise t context = some ds) : shape.Fits t ds := by
  rw [bySelectedRule] at h
  split at h
  · cases h
  · next present =>
    replace present : t.value ≠ "" := by simpa using present
    rw [← Option.some.inj h]
    cases selected : firstMatch rules t with
    | none => exact rest present
    | some outcome =>
      obtain ⟨r, inside, rfl, -⟩ := exists_rule_of_firstMatch selected
      exact each present r inside

/-! ## Text -/

def textShape : Shape where
  forms := [["color"], ["text-align"], ["text-wrap"], ["text-overflow"], ["font-size"],
    ["font-size", "line-height"]]
  named := by decide

theorem oneItem_of_lineHeight? {height : String} (h : t.OneItem)
    (given : lineHeight? t = some height) : OneItem height := by
  rw [lineHeight?] at given
  split at given
  · cases given
  · rw [← Option.some.inj given]
    exact of_lookup_getD (by decide) h.secondJoined

theorem fits_textSize (present : t.value ≠ "") : textShape.Fits t (textSize t) := by
  have sizes : ∀ e ∈ fontSizes, (OneItem e.2.1 ∧ OneItem e.2.2) ∧ Visible e.2.1 := by decide
  have forms : ["font-size"] ∈ textShape.forms ∧
      ["font-size", "line-height"] ∈ textShape.forms := by decide
  rw [textSize]
  split
  · next size height named given =>
    have found := sizes _ (mem_of_lookup_eq_some named)
    exact Shape.fits_two forms.2 (fun _ => found.1.1) (fun h => oneItem_of_lineHeight? h given)
      fun _ _ => Or.inl found.2
  · next size height named _ =>
    have found := sizes _ (mem_of_lookup_eq_some named)
    exact Shape.fits_two forms.2 (fun _ => found.1.1) (fun _ => found.1.2)
      fun _ _ => Or.inl found.2
  · next height _ given =>
    exact Shape.fits_two forms.2 Token.OneItem.joined (fun h => oneItem_of_lineHeight? h given)
      fun unbroken _ => Or.inl (unbroken.joined present)
  · exact Shape.fits_one forms.1 Token.OneItem.joined fun unbroken _ => unbroken.joined present

theorem fits_text (h : bySelectedRule textRules textColor t context = some ds) :
    textShape.Fits t ds := by
  refine Shape.fits_of_bySelectedRule (fun present => ?_)
    (fun present => Shape.fits_colorValue (by decide) present) h
  simp only [textRules, List.forall_mem_cons]
  refine ⟨?_, ?_, ?_, ?_, ?_, nofun⟩
  · exact Shape.fits_colorValue (by decide) present
  · exact Shape.fits_value (by decide) present
  · exact Shape.fits_value (by decide) present
  · exact Shape.fits_value (by decide) present
  · exact fits_textSize present

/-! ## Fonts -/

def fontShape : Shape where
  forms := [["font-weight"], ["font-family"]]
  named := by decide

theorem fits_font (h : bySelectedRule fontRules fontFamily t context = some ds) :
    fontShape.Fits t ds := by
  refine Shape.fits_of_bySelectedRule (fun present => ?_)
    (fun present => Shape.fits_value (by decide) present) h
  simp only [fontRules, List.forall_mem_cons]
  refine ⟨?_, ?_, nofun⟩
  · exact Shape.fits_one (by decide) (fun oneItem => of_lookup_getD (by decide) oneItem.value)
      fun unbroken _ => of_lookup_getD (by decide) (unbroken.value present)
  · exact Shape.fits_value (by decide) present

/-! ## Decorations -/

def decorationShape : Shape where
  forms := [["text-decoration-color"], ["text-decoration-style"], ["text-decoration-thickness"]]
  named := by decide

theorem fits_decorationThickness (present : t.value ≠ "") :
    decorationShape.Fits t (decorationThickness t) := by
  refine Shape.fits_one (by decide) (fun oneItem => ?_) fun unbroken _ => ?_
  · split
    · exact oneItem_append.mpr ⟨oneItem.value, by decide⟩
    · exact oneItem.joined
  · split
    · exact visible_append.mpr (Or.inr (by decide))
    · exact unbroken.joined present

theorem fits_decoration (h : bySelectedRule decorationRules decorationColor t context = some ds) :
    decorationShape.Fits t ds := by
  refine Shape.fits_of_bySelectedRule (fun present => ?_)
    (fun present => Shape.fits_colorValue (by decide) present) h
  simp only [decorationRules, List.forall_mem_cons]
  refine ⟨?_, ?_, ?_, nofun⟩
  · exact Shape.fits_colorValue (by decide) present
  · exact Shape.fits_value (by decide) present
  · exact fits_decorationThickness present

end UtilityCss.Utility
