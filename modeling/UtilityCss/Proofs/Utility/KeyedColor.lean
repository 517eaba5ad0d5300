import UtilityCss.Proofs.Color.Alpha
import UtilityCss.Proofs.Utility.ColorChannel
import UtilityCss.Proofs.Utility.Listing

/-!
# Asking for a color by key

Eight utilities with several purposes can set a color. For six of them the key for colors is enough,
whatever the value looks like. Shadows and rings look at the value alone: a value that does not look like a
color is drawn as a layer, and the color is not set. Parts of tokens have neither semicolons nor white
space here.
-/
namespace UtilityCss.Utility

open UtilityCss.Text UtilityCss.Color PropertyTable

/-- The utilities that list a color for the key, each with its property. -/
def keyedColorProperties : List (String × String) :=
  [("text", "color"), ("border", "border-color"), ("outline", "outline-color"),
   ("decoration", "text-decoration-color"), ("drop-shadow", "--drop-shadow-color")]

/-- The utilities that draw a layer of their own, each with the property for its color. -/
def layerColorProperties : List (String × String) :=
  [("shadow", "--tui-shadow-color"), ("ring", "--tui-ring-shadow-color")]

/-- All utilities with several purposes of which one is a color. -/
def sharedColorProperties : List (String × String) :=
  ("bg", "background-color") :: (keyedColorProperties ++ layerColorProperties)

/-- The value is drawn as a layer because it does not look like a color. -/
def DrawsLayer (utility : String) (t : Token) : Prop :=
  utility ∈ layerColorProperties.map Prod.fst ∧ isColorToken t = false

variable {t : Token} {context : Context}

/-! ## Listings for the key -/

/-- Where the first rule is for colors, the key for colors is enough. -/
theorem bySelectedRule_of_key {rule : Rule (Token → Context → List Declaration)}
    {rules : List (Rule (Token → Context → List Declaration))}
    {otherwise : Token → Context → List Declaration} (present : t.value ≠ "") (named : t.key ≠ "")
    (key : rule.key = t.key) :
    bySelectedRule (rule :: rules) otherwise t context = some (rule.outcome t context) := by
  rw [bySelectedRule, if_neg (by simpa using present), firstMatch_cons_of_key named key]
  rfl

theorem lineDeclarations_of_key (family : LineFamily) (key : t.key = "color") :
    family.declarations t context = [⟨family.name ++ "-color", colorValue t context⟩] := by
  have named : t.key ≠ "" := by simp [key]
  have selected : firstMatch family.rules t = some .color := firstMatch_cons_of_key named key.symm
  rw [LineFamily.declarations, selected]

/-- Five utilities list the color and nothing else, whatever the value is. -/
theorem exists_listing_of_key :
    ∀ e ∈ keyedColorProperties, ∃ list, builtinTable.entry? e.1 = some (.compute list) ∧
      ∀ {t : Token} {context : Context}, t.key = "color" → t.value ≠ "" →
        list t context = some [⟨e.2, colorValue t context⟩] := by
  simp only [keyedColorProperties, List.forall_mem_cons, entry?_builtinTable]
  refine ⟨⟨_, rfl, fun key present => ?text⟩, ⟨_, rfl, fun key _ => ?border⟩,
    ⟨_, rfl, fun key _ => ?outline⟩, ⟨_, rfl, fun key present => ?decoration⟩,
    ⟨_, rfl, fun key _ => ?dropShadow⟩, List.forall_mem_nil _⟩
  case text => exact bySelectedRule_of_key present (by simp [key]) key.symm
  case border => exact congrArg some (lineDeclarations_of_key borderLine key)
  case outline => exact congrArg some (lineDeclarations_of_key outlineLine key)
  case decoration => exact bySelectedRule_of_key present (by simp [key]) key.symm
  case dropShadow => exact congrArg some (dropShadowDeclarations_of_color (Or.inl key))

theorem shadowDeclarations_of_other (outer : t.key ≠ "inset") (other : isColorToken t = false) :
    ∃ value, shadowDeclarations t context = [⟨"--tui-shadow", value⟩, boxShadow] :=
  ⟨_, by simp [shadowDeclarations, outer, other]; rfl⟩

theorem ringDeclarations_of_other (outer : t.key ≠ "inset") (other : isColorToken t = false) :
    ∃ value, ringDeclarations t context = [⟨"--tui-ring-shadow", value⟩, boxShadow] :=
  ⟨_, by simp [ringDeclarations, outer, other]; rfl⟩

/-- Two utilities list the color if the value looks like one, else a layer and the stack of layers. -/
theorem exists_layer_listing :
    ∀ e ∈ layerColorProperties, ∃ list, builtinTable.entry? e.1 = some (.compute list) ∧
      ∀ {t : Token} {context : Context}, t.key ≠ "inset" →
        (isColorToken t = true → list t context = some [⟨e.2, colorValue t context⟩]) ∧
        (isColorToken t = false → ∃ layer value, e.2 ∉ [layer, boxShadow.property] ∧
          list t context = some [⟨layer, value⟩, boxShadow]) := by
  simp only [layerColorProperties, List.forall_mem_cons, entry?_builtinTable]
  refine ⟨⟨_, rfl, fun outer => ⟨fun color => ?_, fun other => ?_⟩⟩,
    ⟨_, rfl, fun outer => ⟨fun color => ?_, fun other => ?_⟩⟩, List.forall_mem_nil _⟩
  · exact congrArg some (shadowDeclarations_of_color outer color)
  · obtain ⟨value, listed⟩ := shadowDeclarations_of_other outer other
    exact ⟨_, value, by decide, congrArg some listed⟩
  · exact congrArg some (ringDeclarations_of_color outer color)
  · obtain ⟨value, listed⟩ := ringDeclarations_of_other outer other
    exact ⟨_, value, by decide, congrArg some listed⟩

/-! ## What is declared -/

/-- The stack of layers is read back as it is printed. -/
theorem readBack?_boxShadow : boxShadow.readBack? = some boxShadow := by
  refine Declaration.readBack?_eq_self ?_ ?_
  · decide +kernel
  · decide +kernel

/-- A layer that is drawn sets the stack of layers, and not its color. -/
theorem resolve_of_lists_layer {utility property layer value : String}
    {list : Token → Context → Option (List Declaration)} (oneItem : t.OneItem)
    (found : builtinTable.entry? utility = some (.compute list))
    (other : property ∉ [layer, boxShadow.property])
    (lists : list t context = some [⟨layer, value⟩, boxShadow]) :
    ∃ r, builtinTable.resolve utility t context = some r ∧ boxShadow ∈ r.declarations ∧
      property ∉ r.declarations.map Declaration.property := by
  have resolved : builtinTable.resolve utility t context =
      some (.text (renderDeclarations [⟨layer, value⟩, boxShadow])) := by
    rw [resolve_of_found found, Entry.resolve, lists]
    rfl
  refine ⟨_, resolved, ?_⟩
  cases accounted_of_found found with
  | lists listed describes =>
    rw [describes.declarations_text oneItem lists]
    constructor
    · exact List.mem_filterMap.mpr ⟨boxShadow, by simp, readBack?_boxShadow⟩
    · intro inside
      exact other ((properties_readBack_sublist _).subset inside)

/-- A color is printed as one item, trimmed, and can be seen. -/
theorem colorValue_shown (context : Context) (present : t.value ≠ "") (oneItem : t.OneItem)
    (unbroken : t.Unbroken) :
    OneItem (colorValue t context) ∧ Trimmed isCssBlank (colorValue t context).toList ∧
      colorValue t context ≠ "" := by
  have trimmed : Trimmed isCssBlank t.value.toList :=
    trimmed_of_forall (unbroken t.value (by simp [Token.parts]))
  refine ⟨oneItem_colorValue context oneItem, trimmed_composeAlpha trimmed, ?_⟩
  intro empty
  obtain ⟨c, inside, -⟩ := visible_colorValue context unbroken present
  rw [empty] at inside
  exact List.not_mem_nil inside

/-- Where no layer is drawn, the key sets the color. -/
theorem resolve_of_key {utility property : String} (context : Context)
    (shared : (utility, property) ∈ sharedColorProperties) (key : t.key = "color")
    (present : t.value ≠ "") (oneItem : t.OneItem) (unbroken : t.Unbroken)
    (kept : ¬ DrawsLayer utility t) :
    ∃ r, builtinTable.resolve utility t context = some r ∧
      r.declarations = [⟨property, colorValue t context⟩] := by
  obtain ⟨shown, trimmed, visible⟩ := colorValue_shown context present oneItem unbroken
  have names : ∀ e ∈ keyedColorProperties ++ layerColorProperties, IsPropertyName e.2 := by decide
  rcases List.mem_cons.mp shared with same | listed
  · cases same
    exact resolve_bg_of_writesColor (Or.inl key) present
  · have name := names (utility, property) listed
    rcases List.mem_append.mp listed with keyed | layered
    · obtain ⟨list, found, lists⟩ := exists_listing_of_key (utility, property) keyed
      exact resolve_of_lists_color found name (lists key present) shown trimmed visible
    · obtain ⟨list, found, lists⟩ := exists_layer_listing (utility, property) layered
      have outer : t.key ≠ "inset" := by simp [key]
      have color : isColorToken t = true := by
        cases token : isColorToken t with
        | true => rfl
        | false => exact absurd ⟨List.mem_map.mpr ⟨_, layered, rfl⟩, token⟩ kept
      exact resolve_of_lists_color found name ((lists outer).1 color) shown trimmed visible

/-- A layer that is drawn instead of a color is composed with the others. -/
theorem resolve_of_drawsLayer {utility property : String} (context : Context)
    (shared : (utility, property) ∈ sharedColorProperties) (key : t.key = "color")
    (oneItem : t.OneItem) (draws : DrawsLayer utility t) :
    ∃ r, builtinTable.resolve utility t context = some r ∧ boxShadow ∈ r.declarations ∧
      property ∉ r.declarations.map Declaration.property := by
  have named : ∀ e ∈ sharedColorProperties, e.1 ∈ layerColorProperties.map Prod.fst →
      e ∈ layerColorProperties := by decide
  obtain ⟨list, found, lists⟩ :=
    exists_layer_listing (utility, property) (named _ shared draws.1)
  have outer : t.key ≠ "inset" := by simp [key]
  obtain ⟨layer, value, other, listed⟩ := (lists outer).2 draws.2
  exact resolve_of_lists_layer oneItem found other listed

/-- Under the key for colors a utility with several purposes sets its color to the value with its opacity,
and nothing else, whatever the value is. This fails exactly for shadows and rings whose value does not look
like a color: these draw a layer and set no color. -/
theorem keyed_color_iff {utility property : String}
    (shared : (utility, property) ∈ sharedColorProperties) (t : Token) (context : Context)
    (key : t.key = "color") (present : t.value ≠ "") (oneItem : t.OneItem) (unbroken : t.Unbroken) :
    ∃ r, builtinTable.resolve utility t context = some r ∧
      (r.declarations =
          [⟨property, composeAlpha t.value t.secondValue t.secondUnit context.format⟩] ↔
        ¬ DrawsLayer utility t) ∧
      (DrawsLayer utility t → boxShadow ∈ r.declarations ∧
        property ∉ r.declarations.map Declaration.property) := by
  by_cases draws : DrawsLayer utility t
  · obtain ⟨r, resolved, composed, uncolored⟩ :=
      resolve_of_drawsLayer context shared key oneItem draws
    refine ⟨r, resolved, ?_, fun _ => ⟨composed, uncolored⟩⟩
    refine iff_of_false (fun colored => uncolored ?_) (not_not_intro draws)
    rw [colored]
    exact List.mem_singleton_self property
  · obtain ⟨r, resolved, colored⟩ :=
      resolve_of_key context shared key present oneItem unbroken draws
    exact ⟨r, resolved, iff_of_true colored draws, fun drawn => absurd drawn draws⟩

/-- A variable is no color by its looks, and yet the color of a border that is asked for by key. -/
theorem keyed_color_of_variable :
    ("border", "border-color") ∈ sharedColorProperties ∧
    Token.OneItem ⟨"color", "var(--brand)", "", "50", ""⟩ ∧
    Token.Unbroken ⟨"color", "var(--brand)", "", "50", ""⟩ ∧
    ∃ r, builtinTable.resolve "border" ⟨"color", "var(--brand)", "", "50", ""⟩ {} = some r ∧
      r.declarations = [⟨"border-color", "var(--brand)"⟩] := by
  have shared : ("border", "border-color") ∈ sharedColorProperties := by decide
  have oneItem : Token.OneItem ⟨"color", "var(--brand)", "", "50", ""⟩ := by decide
  have unbroken : Token.Unbroken ⟨"color", "var(--brand)", "", "50", ""⟩ := by decide
  obtain ⟨r, resolved, colored, -⟩ :=
    keyed_color_iff shared ⟨"color", "var(--brand)", "", "50", ""⟩ {} rfl (by decide) oneItem unbroken
  refine ⟨shared, oneItem, unbroken, r, resolved, ?_⟩
  rw [colored.mpr fun draws => absurd draws.1 (by decide)]
  decide +kernel

/-- A ring whose color is asked for by key is drawn in the width that the variable has. -/
theorem ring_draws_variable_under_color_key :
    Token.OneItem ⟨"color", "var(--brand)", "", "", ""⟩ ∧
    Token.Unbroken ⟨"color", "var(--brand)", "", "", ""⟩ ∧
    ∃ r, builtinTable.resolve "ring" ⟨"color", "var(--brand)", "", "", ""⟩ {} = some r ∧
      r.declarations ≠
        [⟨"--tui-ring-shadow-color", composeAlpha "var(--brand)" "" "" default⟩] := by
  have drawn : DrawsLayer "ring" ⟨"color", "var(--brand)", "", "", ""⟩ :=
    ⟨by decide, by decide +kernel⟩
  obtain ⟨r, resolved, -, uncolored⟩ :=
    @resolve_of_drawsLayer ⟨"color", "var(--brand)", "", "", ""⟩ "ring" "--tui-ring-shadow-color" {}
      (by decide) rfl (by decide) drawn
  refine ⟨by decide, by decide, r, resolved, fun colored => uncolored ?_⟩
  rw [colored]
  exact List.mem_singleton_self _

end UtilityCss.Utility
