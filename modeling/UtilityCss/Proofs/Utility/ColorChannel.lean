import UtilityCss.Proofs.Utility.Background
import UtilityCss.Proofs.Utility.Builtin
import UtilityCss.Proofs.Utility.NormalForm

/-!
# The nine ways to set a color

Nine utilities take a color without a key. They find out by different rules that a value is a color, and
all of them write it with its opacity to one property.
-/
namespace UtilityCss.Utility

open UtilityCss.Text PropertyTable

/-- The utilities that list a color, each with its property. -/
def listedColorProperties : List (String × String) :=
  [("text", "color"), ("border", "border-color"), ("outline", "outline-color"),
   ("decoration", "text-decoration-color"), ("shadow", "--tui-shadow-color"),
   ("ring", "--tui-ring-shadow-color"), ("ring-offset", "--tui-ring-offset-color"),
   ("drop-shadow", "--drop-shadow-color")]

/-- All utilities that take a color, each with its property. -/
def colorProperties : List (String × String) := ("bg", "background-color") :: listedColorProperties

variable {t : Token} {context : Context}

theorem isColorToken_of_isColor (color : Color.isColor t.value = true) : isColorToken t = true := by
  rw [isColorToken, Color.isColorOrKeyword, color, Bool.or_true]

/-- Where the first rule is for colors, a color without a key is taken by it. -/
theorem bySelectedRule_of_color {rule : Rule (Token → Context → List Declaration)}
    {rules : List (Rule (Token → Context → List Declaration))}
    {otherwise : Token → Context → List Declaration} (unkeyed : t.key = "")
    (color : Color.isColor t.value = true) (accepts : rule.accepts t = true) :
    bySelectedRule (rule :: rules) otherwise t context = some (rule.outcome t context) := by
  have present := ne_empty_of_isColorToken (isColorToken_of_isColor color)
  rw [bySelectedRule, if_neg (by simpa using present),
    firstMatch_cons_of_accepts (not_hasKeyOf_of_unkeyed unkeyed) accepts]
  rfl

theorem lineDeclarations_of_color (family : LineFamily) (unkeyed : t.key = "")
    (color : Color.isColor t.value = true) :
    family.declarations t context = [⟨family.name ++ "-color", colorValue t context⟩] := by
  have selected : firstMatch family.rules t = some .color :=
    firstMatch_cons_of_accepts (not_hasKeyOf_of_unkeyed unkeyed) (isColorToken_of_isColor color)
  rw [LineFamily.declarations, selected]

theorem ringDeclarations_of_color (outer : t.key ≠ "inset") (color : isColorToken t = true) :
    ringDeclarations t context = [⟨"--tui-ring-shadow-color", colorValue t context⟩] := by
  simp [ringDeclarations, outer, color]

theorem ringOffsetDeclarations_of_color (color : isColorToken t = true) :
    ringOffsetDeclarations t context = [⟨"--tui-ring-offset-color", colorValue t context⟩] := by
  rw [ringOffsetDeclarations, if_pos color]

theorem shadowDeclarations_of_color (outer : t.key ≠ "inset") (color : isColorToken t = true) :
    shadowDeclarations t context = [⟨"--tui-shadow-color", colorValue t context⟩] := by
  simp [shadowDeclarations, outer, color]

/-- A drop shadow takes the key for colors like a color. -/
theorem dropShadowDeclarations_of_color (color : t.key = "color" ∨ isColorToken t = true) :
    dropShadowDeclarations t context = [⟨"--drop-shadow-color", colorValue t context⟩] := by
  simp [dropShadowDeclarations, color]

/-- Each utility that lists a color lists nothing else. -/
theorem exists_listing_of_color :
    ∀ e ∈ listedColorProperties, ∃ list, builtinTable.entry? e.1 = some (.compute list) ∧
      ∀ {t : Token} {context : Context}, t.key = "" → Color.isColor t.value = true →
        list t context = some [⟨e.2, colorValue t context⟩] := by
  simp only [listedColorProperties, List.forall_mem_cons, entry?_builtinTable]
  refine ⟨⟨_, rfl, fun unkeyed color => ?_⟩, ⟨_, rfl, fun unkeyed color => ?_⟩,
    ⟨_, rfl, fun unkeyed color => ?_⟩, ⟨_, rfl, fun unkeyed color => ?_⟩,
    ⟨_, rfl, fun unkeyed color => ?_⟩, ⟨_, rfl, fun unkeyed color => ?_⟩,
    ⟨_, rfl, fun unkeyed color => ?_⟩, ⟨_, rfl, fun unkeyed color => ?_⟩, List.forall_mem_nil _⟩
  · exact bySelectedRule_of_color unkeyed color (isColorToken_of_isColor color)
  · exact congrArg some (lineDeclarations_of_color borderLine unkeyed color)
  · exact congrArg some (lineDeclarations_of_color outlineLine unkeyed color)
  · exact bySelectedRule_of_color unkeyed color color
  · exact congrArg some
      (shadowDeclarations_of_color (by simp [unkeyed]) (isColorToken_of_isColor color))
  · exact congrArg some
      (ringDeclarations_of_color (by simp [unkeyed]) (isColorToken_of_isColor color))
  · exact congrArg some (ringOffsetDeclarations_of_color (isColorToken_of_isColor color))
  · exact congrArg some (dropShadowDeclarations_of_color (Or.inr (isColorToken_of_isColor color)))

/-! ## Reading the color back -/

/-- A background that is written as a color sets the background color and nothing else. -/
theorem resolve_bg_of_writesColor (writes : WritesColor t) (present : t.value ≠ "") :
    ∃ r, builtinTable.resolve "bg" t context = some r ∧
      r.declarations = [⟨"background-color", colorValue t context⟩] := by
  have picked : backgroundProperty t = "backgroundColor" := by
    rw [backgroundProperty_eq_iff]
    rcases writes with key | ⟨unkeyed, color⟩
    · exact Or.inl key
    · exact Or.inr ⟨not_hasKeyOf_of_unkeyed unkeyed, color⟩
  refine ⟨_, resolve_bg context present, ?_⟩
  have kebab : toKebabCase "backgroundColor" = "background-color" := by decide +kernel
  rw [picked, if_pos writes, Resolved.declarations, List.map_singleton, kebab]

/-- A color that is the only declaration is read back if its text survives trimming. -/
theorem resolve_of_lists_color {utility property : String}
    {list : Token → Context → Option (List Declaration)}
    (found : builtinTable.entry? utility = some (.compute list)) (name : IsPropertyName property)
    (lists : list t context = some [⟨property, colorValue t context⟩])
    (oneItem : OneItem (colorValue t context))
    (trimmed : Trimmed isCssBlank (colorValue t context).toList)
    (visible : colorValue t context ≠ "") :
    ∃ r, builtinTable.resolve utility t context = some r ∧
      r.declarations = [⟨property, colorValue t context⟩] := by
  have canonical : Declaration.Canonical ⟨property, colorValue t context⟩ :=
    ⟨name, visible, trimmed, oneItem⟩
  refine ⟨.text (renderDeclarations [⟨property, colorValue t context⟩]), ?_,
    parse_render_of_canonical (List.forall_mem_singleton.mpr canonical)⟩
  rw [resolve_of_found found, Entry.resolve, lists]
  rfl

/-- A color without a key sets the property of the utility to the color with its opacity, which has to
survive the reading of printed declarations. -/
theorem resolve_color {utility property : String} (h : (utility, property) ∈ colorProperties)
    (unkeyed : t.key = "") (color : Color.isColor t.value = true)
    (oneItem : OneItem (colorValue t context))
    (trimmed : Trimmed isCssBlank (colorValue t context).toList)
    (visible : colorValue t context ≠ "") :
    ∃ r, builtinTable.resolve utility t context = some r ∧
      r.declarations = [⟨property, colorValue t context⟩] := by
  rcases List.mem_cons.mp h with same | listed
  · cases same
    have token := isColorToken_of_isColor color
    exact resolve_bg_of_writesColor (Or.inr ⟨unkeyed, token⟩) (ne_empty_of_isColorToken token)
  · obtain ⟨list, found, lists⟩ := exists_listing_of_color (utility, property) listed
    have names : ∀ e ∈ listedColorProperties, IsPropertyName e.2 := by decide
    exact resolve_of_lists_color found (names (utility, property) listed) (lists unkeyed color)
      oneItem trimmed visible

end UtilityCss.Utility
