import UtilityCss.Proofs.Utility.Builtin

/-!
# Tokens that resolve to no declaration

A token either does not resolve or has declarations. The exceptions are three utilities whose color or
style is asked for by key without a value: they resolve, and nothing is left of their declarations. The
parts of tokens have neither semicolons nor white space here.
-/
namespace UtilityCss.Utility

open PropertyTable

variable {utility : String} {t : Token} {context : Context}

/-- The key selects something although there is no value for it: the color or the style of a line, or
the color of a drop shadow. -/
def IsBareKey (utility key : String) : Prop :=
  (utility = "border" ∨ utility = "outline") ∧ (key = "color" ∨ key = "style") ∨
    utility = "drop-shadow" ∧ key = "color"

/-- The token asks by key for something that needs a value, and has none. -/
def Hollow (utility : String) (t : Token) : Prop := t.value = "" ∧ IsBareKey utility t.key

theorem mem_bareKeys_iff :
    ∀ item ∈ listingShapes, ∀ key, key ∈ item.2.bareKeys ↔ IsBareKey item.1 key := by
  simp [listingShapes, IsBareKey, textShape, fontShape, decorationShape, LineFamily.shape,
    linePartKeys, ringShape, ringOffsetShape, shadowShape, dropShadowShape, transitionShape,
    moveShape]

/-- A shape has nothing to show exactly for the hollow tokens of its utility. -/
theorem not_fed_iff_hollow {shape : Shape} (listed : listingShapes.lookup utility = some shape) :
    ¬ shape.Fed t ↔ Hollow utility t := by
  have bare := mem_bareKeys_iff (utility, shape) (mem_of_lookup_eq_some listed) t.key
  rw [Shape.not_fed_iff, Hollow, bare]

/-- The utilities that have hollow tokens list declarations for every token. -/
theorem exists_listing_of_hollow (hollow : Hollow utility t) :
    ∃ list : Token → Context → List Declaration,
      builtinTable.entry? utility = some (.compute fun t context => some (list t context)) := by
  rw [entry?_builtinTable]
  rcases hollow.2 with ⟨rfl | rfl, -⟩ | ⟨rfl, -⟩
  · exact ⟨borderLine.declarations, rfl⟩
  · exact ⟨outlineLine.declarations, rfl⟩
  · exact ⟨dropShadowDeclarations, rfl⟩

/-- What is declared when an entry is resolved: nothing exactly for hollow tokens. -/
theorem declarations_eq_nil_iff (oneItem : t.OneItem) (unbroken : t.Unbroken) {r : Resolved}
    (resolved : builtinTable.resolve utility t context = some r) :
    r.declarations = [] ↔ Hollow utility t := by
  obtain ⟨e, found, resolved⟩ := resolve_eq_some_iff.mp resolved
  cases accounted_of_found found with
  | @declares property value names =>
    obtain ⟨v, -, rfl⟩ := Option.map_eq_some_iff.mp resolved
    have shown : (Resolved.properties (property.names t context) v).declarations ≠ [] := by
      simpa [Resolved.declarations] using names t context
    refine iff_of_false shown fun hollow => ?_
    obtain ⟨list, listed⟩ := exists_listing_of_hollow hollow
    rw [listed] at found
    cases found
  | lists listed describes =>
    obtain ⟨ds, made, rfl⟩ := Option.map_eq_some_iff.mp resolved
    rw [Resolved.declarations, describes.parse_eq_nil_iff made oneItem unbroken,
      not_fed_iff_hollow listed]

/-- A token resolves to no declaration at all exactly if it is hollow. -/
theorem resolves_to_nothing_iff (utility : String) (t : Token) (context : Context)
    (oneItem : t.OneItem) (unbroken : t.Unbroken) :
    (∃ r, builtinTable.resolve utility t context = some r ∧ r.declarations = []) ↔
      Hollow utility t := by
  constructor
  · rintro ⟨r, resolved, nothing⟩
    exact (declarations_eq_nil_iff oneItem unbroken resolved).mp nothing
  · intro hollow
    obtain ⟨list, listed⟩ := exists_listing_of_hollow hollow
    have resolved : builtinTable.resolve utility t context =
        some (.text (renderDeclarations (list t context))) := by
      rw [resolve_of_found listed]
      rfl
    exact ⟨_, resolved, (declarations_eq_nil_iff oneItem unbroken resolved).mpr hollow⟩

/-- A line of two pixels on the left is not resolved to nothing, and the color of a drop shadow is if it
has no value. -/
theorem resolves_to_nothing_for_bare_color :
    (∃ r, builtinTable.resolve "drop-shadow" ⟨"color", "", "", "", ""⟩ {} = some r ∧
      r.declarations = []) ∧
    ¬ ∃ r, builtinTable.resolve "border" ⟨"l", "2", "px", "", ""⟩ {} = some r ∧
      r.declarations = [] := by
  constructor
  · rw [resolves_to_nothing_iff _ _ _ (by decide) (by decide)]
    exact ⟨rfl, Or.inr ⟨rfl, rfl⟩⟩
  · rw [resolves_to_nothing_iff _ _ _ (by decide) (by decide)]
    exact fun hollow => absurd hollow.1 (by decide)

/-- The style of a border resolves without a value, and declares nothing. -/
theorem border_style_without_value :
    builtinTable.resolve "border" ⟨"style", "", "", "", ""⟩ {} = some (.text "border-style: ") ∧
      (Resolved.text "border-style: ").declarations = [] := by
  have listed : builtinTable.entry? "border" = some border := by
    rw [entry?_builtinTable]
    rfl
  refine ⟨?_, by decide +kernel⟩
  rw [resolve_of_found listed]
  rfl

end UtilityCss.Utility
