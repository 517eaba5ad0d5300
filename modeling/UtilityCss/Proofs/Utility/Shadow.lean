import UtilityCss.Proofs.Utility.Shape
import UtilityCss.Utility.Shadow

/-!
# Shapes of shadows

A shadow without a value has the default size. The color of a drop shadow can be asked for by key
alone, and is then an empty text.
-/
namespace UtilityCss.Utility

variable {t : Token} {context : Context}

/-! ## Shadows of boxes -/

def shadowShape : Shape where
  forms := [["--tui-shadow-color"], ["--tui-inset-shadow-color"], ["--tui-shadow", "box-shadow"],
    ["--tui-inset-shadow", "box-shadow"]]
  named := by decide

theorem oneItem_shadowSizes : ∀ e ∈ shadowSizes, OneItem e.2 := by
  simp only [shadowSizes, List.forall_mem_cons, oneItem_append]
  exact ⟨.ofList (by decide), .ofList (by decide), ⟨.ofList (by decide), .ofList (by decide)⟩,
    ⟨.ofList (by decide), .ofList (by decide)⟩, ⟨.ofList (by decide), .ofList (by decide)⟩,
    ⟨.ofList (by decide), .ofList (by decide)⟩, .ofList (by decide), .ofList (by decide), nofun⟩

theorem oneItem_insetShadowSizes : ∀ e ∈ insetShadowSizes, OneItem e.2 := by
  simp only [insetShadowSizes, List.forall_mem_cons]
  exact ⟨.ofList (by decide), .ofList (by decide), .ofList (by decide), .ofList (by decide), nofun⟩

theorem oneItem_dropShadowSizes : ∀ e ∈ dropShadowSizes, OneItem e.2 := by
  simp only [dropShadowSizes, List.forall_mem_cons]
  exact ⟨.ofList (by decide), .ofList (by decide), .ofList (by decide), .ofList (by decide),
    .ofList (by decide), .ofList (by decide), nofun⟩

theorem oneItem_of_shadowPreset? {size preset : String} {inset : Bool}
    (found : shadowPreset? size inset = some preset) : OneItem preset := by
  cases inset with
  | true =>
    rw [shadowPreset?, if_pos rfl] at found
    exact oneItem_insetShadowSizes (size, preset) (mem_of_lookup_eq_some found)
  | false =>
    obtain ⟨pattern, listed, rfl⟩ := Option.map_eq_some_iff.mp found
    have clean := oneItem_shadowSizes (size, pattern) (mem_of_lookup_eq_some listed)
    exact oneItem_substitute clean (by decide)

theorem oneItem_shadowLayer (size : String) (inset : Bool) (h : t.OneItem) :
    OneItem ((shadowPreset? size inset).getD t.joined) := by
  cases found : shadowPreset? size inset with
  | none => exact h.joined
  | some preset => exact oneItem_of_shadowPreset? found

theorem fits_shadow : shadowShape.Fits t (shadowDeclarations t context) := by
  rw [shadowDeclarations]
  by_cases color : isColorToken t = true
  · have present := ne_empty_of_isColorToken color
    rw [if_pos color]
    cases t.key == "inset" with
    | false => exact Shape.fits_colorValue (by decide) present
    | true => exact Shape.fits_colorValue (by decide) present
  · rw [if_neg color]
    have stack := boxShadowStack_shown
    cases t.key == "inset" with
    | false =>
      exact Shape.fits_two (by decide) (oneItem_shadowLayer _ false) (fun _ => stack.1)
        fun _ _ => Or.inr stack.2
    | true =>
      exact Shape.fits_two (by decide) (oneItem_shadowLayer _ true) (fun _ => stack.1)
        fun _ _ => Or.inr stack.2

/-! ## Drop shadows -/

def dropShadowShape : Shape where
  forms := [["--drop-shadow-color"], ["filter"]]
  bareKeys := ["color"]
  named := by decide

theorem oneItem_effect {sizes : Aliases} (all : ∀ e ∈ sizes, OneItem e.2) (h : t.OneItem) :
    OneItem (effect sizes t) := by
  refine of_lookup_getD all ?_
  split
  · decide
  · exact h.joined

theorem fits_dropShadow : dropShadowShape.Fits t (dropShadowDeclarations t context) := by
  rw [dropShadowDeclarations]
  split
  · next selected =>
    refine Shape.fits_one (by decide) (oneItem_colorValue context) fun h fed => ?_
    refine visible_colorValue context h ?_
    rw [Bool.or_eq_true, beq_iff_eq] at selected
    rcases selected with key | color
    · exact fed.resolve_right (not_not_intro (by simp [dropShadowShape, key]))
    · exact ne_empty_of_isColorToken color
  · refine Shape.fits_one (by decide) (fun h => ?_) fun _ _ => ?_
    · simp only [oneItem_append]
      exact ⟨⟨by decide, oneItem_effect oneItem_dropShadowSizes h⟩, by decide⟩
    · exact visible_append.mpr (Or.inr (by decide))

/-- The key alone sets an empty text. -/
theorem dropShadow_empty_of_not_fed (starved : ¬ dropShadowShape.Fed t) :
    ∀ d ∈ dropShadowDeclarations t context, d.value = "" := by
  obtain ⟨absent, bare⟩ := Shape.not_fed_iff.mp starved
  have key : t.key = "color" := List.mem_singleton.mp bare
  simp [dropShadowDeclarations, key, colorValue_of_absent absent]

end UtilityCss.Utility
