import UtilityCss.Proofs.Utility.Rule
import UtilityCss.Proofs.Utility.Shape
import UtilityCss.Utility.Line

/-!
# Shapes of borders, outlines and rings

A border or an outline without a value is a line of one pixel, unless its key asks for a color or a
style: then it sets an empty text. Rings always have a width.
-/
namespace UtilityCss.Utility

variable {t : Token} {context : Context}

/-! ## Borders and outlines -/

/-- The keys of the parts that a line has besides its width. -/
def linePartKeys : List String := ["color", "style"]

/-- A color, a style, or a style with the width of one side or of all. -/
def LineFamily.forms (family : LineFamily) : List (List String) :=
  [family.name ++ "-color"] :: [family.name ++ "-style"] ::
    ((family.name ++ "-width") :: family.sides.map Prod.snd).map fun width =>
      [family.name ++ "-style", width]

/-- All properties of a family are names, and all of its styles are words. -/
structure LineFamily.Named (family : LineFamily) : Prop where
  properties : ∀ form ∈ family.forms, ∀ p ∈ form, IsPropertyName p
  styles : "" ∉ family.styles

theorem borderLine_named : borderLine.Named where
  properties := by decide
  styles := by decide

theorem outlineLine_named : outlineLine.Named where
  properties := by decide
  styles := by decide

def LineFamily.shape (family : LineFamily) (named : family.Named) : Shape where
  forms := family.forms
  bareKeys := linePartKeys
  named := named.properties

/-- Without a value only a key can select a color or a style. -/
theorem LineFamily.value_ne_empty {family : LineFamily} (named : family.Named) {part : LinePart}
    (selected : firstMatch family.rules t = some part) (fed : (family.shape named).Fed t) :
    t.value ≠ "" := by
  rcases fed with present | unkeyed
  · exact present
  · obtain ⟨r, inside, -, (⟨key, -⟩ | accepts)⟩ := exists_rule_of_firstMatch selected
    · have known : ∀ r ∈ family.rules, r.key ∈ linePartKeys := by
        simp [rules, linePartKeys]
      exact absurd (key ▸ known r inside) unkeyed
    · simp only [rules, List.mem_cons, List.not_mem_nil, or_false] at inside
      rcases inside with rfl | rfl
      · exact ne_empty_of_isColorToken accepts
      · intro absent
        rw [List.contains_iff_mem, absent] at accepts
        exact named.styles accepts

theorem LineFamily.widthProperty_mem (family : LineFamily) (t : Token) :
    family.widthProperty t ∈ (family.name ++ "-width") :: family.sides.map Prod.snd := by
  rw [widthProperty]
  cases found : family.sides.lookup t.key with
  | none => exact List.mem_cons_self
  | some side =>
    refine List.mem_cons_of_mem _ (List.mem_map.mpr ⟨_, mem_of_lookup_eq_some found, rfl⟩)

theorem LineFamily.fits {family : LineFamily} (named : family.Named) :
    (family.shape named).Fits t (family.declarations t context) := by
  rw [declarations]
  cases selected : firstMatch family.rules t with
  | some part =>
    cases part with
    | color =>
      refine Shape.fits_one (by simp [shape, forms]) (oneItem_colorValue context) fun h fed => ?_
      exact visible_colorValue context h (value_ne_empty named selected fed)
    | style =>
      refine Shape.fits_one (by simp [shape, forms]) Token.OneItem.value fun h fed => ?_
      exact h.value (value_ne_empty named selected fed)
  | none =>
    have form : [family.name ++ "-style", family.widthProperty t] ∈ family.forms :=
      List.mem_cons_of_mem _ (List.mem_cons_of_mem _
        (List.mem_map.mpr ⟨_, family.widthProperty_mem t, rfl⟩))
    refine Shape.fits_two form (fun h => ?_) oneItem_lineWidth fun h _ => Or.inl ?_
    · split
      · decide
      · exact h.secondValue
    · split
      · decide
      · next given => exact h.secondValue (by simpa using given)

/-- A key alone sets an empty text. -/
theorem LineFamily.empty_of_not_fed {family : LineFamily} (named : family.Named)
    (starved : ¬ (family.shape named).Fed t) : ∀ d ∈ family.declarations t context, d.value = "" := by
  obtain ⟨absent, bare⟩ := Shape.not_fed_iff.mp starved
  simp only [shape, linePartKeys, List.mem_cons, List.not_mem_nil, or_false] at bare
  rcases bare with key | key
  · have selected : firstMatch family.rules t = some .color := by
      simp [firstMatch, keyed?, rules, key]
    simp [declarations, selected, colorValue_of_absent absent]
  · have selected : firstMatch family.rules t = some .style := by
      simp [firstMatch, keyed?, rules, key]
    simp [declarations, selected, absent]

/-! ## Rings -/

def ringShape : Shape where
  forms := [["--tui-ring-shadow-color"], ["--tui-inset-ring-shadow-color"],
    ["--tui-ring-shadow", "box-shadow"], ["--tui-inset-ring-shadow", "box-shadow"]]
  named := by decide

theorem oneItem_ringLayer {start layer : String} (h : t.OneItem) (hs : OneItem start)
    (hl : OneItem layer) :
    OneItem (start ++ "0 0 0 calc(" ++ lineWidth t ++
      " + var(--tui-ring-offset-width, 2px)) var(--tui-" ++ layer ++ "-color, currentColor)") := by
  simp only [oneItem_append]
  exact ⟨⟨⟨⟨⟨hs, by decide⟩, oneItem_lineWidth h⟩, by decide⟩, hl⟩, by decide⟩

theorem fits_ring : ringShape.Fits t (ringDeclarations t context) := by
  rw [ringDeclarations]
  by_cases color : isColorToken t = true
  · have present := ne_empty_of_isColorToken color
    rw [if_pos color]
    cases t.key == "inset" with
    | false => exact Shape.fits_colorValue (by decide) present
    | true => exact Shape.fits_colorValue (by decide) present
  · rw [if_neg color]
    have stack := boxShadowStack_shown
    cases t.key == "inset" with
    | false =>
      exact Shape.fits_two (by decide) (fun h => oneItem_ringLayer h (by decide) (by decide))
        (fun _ => stack.1) fun _ _ => Or.inr stack.2
    | true =>
      exact Shape.fits_two (by decide) (fun h => oneItem_ringLayer h (by decide) (by decide))
        (fun _ => stack.1) fun _ _ => Or.inr stack.2

def ringOffsetShape : Shape where
  forms := [["--tui-ring-offset-color"], ["--tui-ring-offset-width", "--tui-ring-offset-shadow"]]
  named := by decide

theorem fits_ringOffset : ringOffsetShape.Fits t (ringOffsetDeclarations t context) := by
  rw [ringOffsetDeclarations]
  by_cases color : isColorToken t = true
  · rw [if_pos color]
    exact Shape.fits_colorValue (by decide) (ne_empty_of_isColorToken color)
  · rw [if_neg color]
    exact Shape.fits_two (by decide) oneItem_lineWidth (fun _ => by decide)
      fun _ _ => Or.inr (by decide)

end UtilityCss.Utility
