import UtilityCss.Proofs.Utility.Rule
import UtilityCss.Proofs.Utility.Shape
import UtilityCss.Utility.Motion

/-!
# Shapes of transitions and movements

A transition without a value lists the default properties, and its keys for single values are turned
down. Movements need a value.
-/
namespace UtilityCss.Utility

variable {t : Token} {context : Context} {ds : List Declaration}

/-! ## Transitions -/

def transitionShape : Shape where
  forms := [["transition"], ["transition-behavior"], ["transition-duration"],
    ["transition-delay"],
    ["transition-property", "transition-timing-function", "transition-duration"]]
  named := by decide

theorem oneItem_withTimeUnit (h : t.OneItem) : OneItem (withTimeUnit t) := by
  refine oneItem_append.mpr ⟨h.value, ?_⟩
  split
  · decide
  · exact h.unit

theorem visible_withTimeUnit (h : t.Unbroken) (present : t.value ≠ "") :
    Visible (withTimeUnit t) :=
  visible_append.mpr (Or.inl (h.value present))

theorem oneItem_transitionDefault : OneItem transitionDefault :=
  oneItem_append.mpr
    ⟨oneItem_append.mpr ⟨.ofList (by decide), .ofList (by decide)⟩, .ofList (by decide)⟩

theorem oneItem_transitionProperties : ∀ e ∈ transitionProperties, OneItem e.2 := by
  simp only [transitionProperties, List.forall_mem_cons]
  exact ⟨.ofList (by decide), .ofList (by decide), .ofList (by decide), .ofList (by decide),
    .ofList (by decide), nofun⟩

theorem fits_propertyList : transitionShape.Fits t (propertyList t) where
  form := by
    change ["transition-property", "transition-timing-function", "transition-duration"] ∈ _
    decide
  oneItem h := by
    have properties : OneItem (if t.value.isEmpty then transitionDefault
        else (transitionProperties.lookup t.value).getD t.value) := by
      split
      · exact oneItem_transitionDefault
      · exact of_lookup_getD oneItem_transitionProperties h.value
    intro d hd
    simp only [propertyList, List.mem_cons, List.not_mem_nil, or_false] at hd
    rcases hd with rfl | rfl | rfl
    · exact properties
    · decide
    · decide
  visible _ _ :=
    ⟨⟨"transition-duration", "var(--default-transition-duration)"⟩, by simp [propertyList],
      by decide⟩

theorem fits_transitionBehavior (present : t.value ≠ "") :
    transitionShape.Fits t (transitionBehavior t) := by
  refine Shape.fits_one (by decide) (fun h => ?_) fun h _ => ?_
  · split
    · decide
    · exact h.value
  · split
    · decide
    · exact h.value present

theorem fits_transitionDuration (present : t.value ≠ "") :
    transitionShape.Fits t (transitionDuration t) := by
  refine Shape.fits_one (by decide) (fun h => ?_) fun h _ => ?_
  · split
    · decide
    · exact oneItem_withTimeUnit h
  · split
    · decide
    · exact visible_withTimeUnit h present

theorem fits_transitionDelay (present : t.value ≠ "") :
    transitionShape.Fits t (transitionDelay t) := by
  refine Shape.fits_one (by decide) (fun h => ?_) fun h _ => ?_
  · split
    · exact h.joined
    · exact oneItem_withTimeUnit h
  · split
    · exact h.joined present
    · exact visible_withTimeUnit h present

theorem firstMatch_of_absent (absent : t.value = "") (needless : t.key ∉ valueKeys) :
    firstMatch transitionRules t = some propertyList := by
  by_cases known : t.HasKeyOf transitionRules
  · have keys : t.key = "property" ∨ t.key ∈ valueKeys := by
      simpa [transitionRules, valueKeys] using known.2
    have key := keys.resolve_right needless
    simp [firstMatch, keyed?, transitionRules, key]
  · exact firstMatch_cons_of_accepts known (by simp [absent])

/-- Without a value only the list of properties is left, because the other keys are turned down. -/
theorem fits_transition (h : transitionDeclarations t = some ds) : transitionShape.Fits t ds := by
  rw [transitionDeclarations] at h
  split at h
  · cases h
  · next accepted =>
    rw [← Option.some.inj h]
    by_cases absent : t.value = ""
    · have needless : t.key ∉ valueKeys := by simpa [absent] using accepted
      rw [firstMatch_of_absent absent needless]
      exact fits_propertyList
    · cases selected : firstMatch transitionRules t with
      | none =>
        exact Shape.fits_one (by decide) Token.OneItem.joined fun h _ => h.joined absent
      | some render =>
        obtain ⟨r, inside, rfl, -⟩ := exists_rule_of_firstMatch selected
        simp only [transitionRules, List.mem_cons, List.not_mem_nil, or_false] at inside
        rcases inside with rfl | rfl | rfl | rfl
        · exact fits_propertyList
        · exact fits_transitionBehavior absent
        · exact fits_transitionDuration absent
        · exact fits_transitionDelay absent

/-! ## Movements -/

def moveShape (axis : String) (named : IsPropertyName ("--tui-move-" ++ axis)) : Shape where
  forms := [["--tui-move-" ++ axis, "translate"]]
  named := by
    have translate : IsPropertyName "translate" := by decide
    simp [named, translate]

theorem fits_axis {axis : String} (named : IsPropertyName ("--tui-move-" ++ axis))
    (h : axisDeclarations axis t context = some ds) : (moveShape axis named).Fits t ds := by
  rw [axisDeclarations] at h
  split at h
  · cases h
  · rw [← Option.some.inj h]
    exact Shape.fits_two (List.mem_singleton_self _)
      (fun h => oneItem_scaleSizing h.value h.unit) (fun _ => by decide)
      fun _ _ => Or.inr (by decide)

end UtilityCss.Utility
