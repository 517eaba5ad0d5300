import Mathlib.Data.List.Find
import UtilityCss.Proofs.Utility.Rule
import UtilityCss.Proofs.Utility.Table

/-!
# Unknown keys

A key has a meaning only where a utility registers it: as the key of a rule, as a side or a bound, or by
a comparison of its own. Every other key counts as no key at all, so that the value alone decides. The
background utility is left out, because its values ask whether there is a key.
-/
namespace UtilityCss.Utility

variable {β : Type} {keys : List String}

/-- What is made of a token without key stays the same under every key that is not listed. -/
def OnlyKnows (keys : List String) (f : Token → β) : Prop :=
  ∀ t : Token, t.key = "" → ∀ key ∉ keys, f { t with key := key } = f t

/-- The key is not looked at. -/
def IsKeyless (f : Token → β) : Prop := ∀ (t : Token) (key : String), f { t with key := key } = f t

theorem IsKeyless.onlyKnows {f : Token → β} (h : IsKeyless f) : OnlyKnows keys f :=
  fun t _ key _ => h t key

/-- The rule names a key, and does not look at it otherwise. -/
structure Rule.Keyless (r : Rule (Token → β)) : Prop where
  accepts : IsKeyless r.accepts
  outcome : IsKeyless r.outcome

/-! ## Where keys are looked at -/

/-- What only compares the key with one name knows that name. -/
theorem onlyKnows_of_flag {name : String} {f : Token → β} (named : name ≠ "")
    (same : ∀ (t : Token) (key : String), (key == name) = (t.key == name) →
      f { t with key := key } = f t) : OnlyKnows [name] f := by
  intro t unkeyed key unknown
  have other : key ≠ name := by simpa using unknown
  refine same t key ?_
  simp [unkeyed, other, named.symm]

theorem onlyKnows_lookup {table : List (String × β)} (named : "" ∉ table.map Prod.fst) :
    OnlyKnows (table.map Prod.fst) fun t => table.lookup t.key := by
  intro t unkeyed key unknown
  have unlisted : t.key ∉ table.map Prod.fst := by rwa [unkeyed]
  have absent : table.lookup t.key = none := OrderedMap.lookup_eq_none_iff_notMem.mpr unlisted
  have absentKey : table.lookup key = none := OrderedMap.lookup_eq_none_iff_notMem.mpr unknown
  exact absentKey.trans absent.symm

/-- Rules know their own keys, if they accept tokens whatever the key is. -/
theorem onlyKnows_firstMatch {rules : List (Rule β)} (keyless : ∀ r ∈ rules, IsKeyless r.accepts) :
    OnlyKnows (rules.map Rule.key) (firstMatch rules) := by
  intro t unkeyed key unknown
  have accepted : rules.find? (·.accepts { t with key := key }) = rules.find? (·.accepts t) :=
    List.find?_congr fun r hr => keyless r hr t key
  have unnamed : ¬ Token.HasKeyOf { t with key := key } rules := fun named => unknown named.2
  rw [firstMatch_of_unknown unnamed, firstMatch_of_unknown (not_hasKeyOf_of_unkeyed unkeyed),
    accepted]

/-- What the selected rule makes of a token knows the keys of the rules. -/
theorem onlyKnows_selected {rules : List (Rule (Token → β))} {otherwise : Token → β}
    (keyless : ∀ r ∈ rules, r.Keyless) (rest : IsKeyless otherwise) :
    OnlyKnows (rules.map Rule.key) fun t => (firstMatch rules t).getD otherwise t := by
  intro t unkeyed key unknown
  have selected : firstMatch rules { t with key := key } = firstMatch rules t :=
    onlyKnows_firstMatch (fun r hr => (keyless r hr).accepts) t unkeyed key unknown
  dsimp only
  rw [selected]
  cases chosen : firstMatch rules t with
  | none => exact rest t key
  | some outcome =>
    -- Only outcomes of the rules are selected.
    obtain ⟨r, inside, rfl, -⟩ := exists_rule_of_firstMatch chosen
    exact (keyless r inside).outcome t key

/-! ## Entries -/

variable {value : ValueSpec}

theorem onlyKnows_fixed {names : List String} (keyless : IsKeyless value.value?) :
    OnlyKnows keys (Entry.declare (.fixed names) value).resolve := by
  intro t _ key _
  funext context
  rw [Entry.resolve, Entry.resolve, keyless]
  rfl

theorem onlyKnows_directional {base : List String} {table : List (String × List String)}
    (named : "" ∉ table.map Prod.fst) (keyless : IsKeyless value.value?) :
    OnlyKnows (table.map Prod.fst) (Entry.declare (.directional base table) value).resolve := by
  intro t unkeyed key unknown
  have side : table.lookup key = table.lookup t.key :=
    onlyKnows_lookup named t unkeyed key unknown
  funext context
  simp only [Entry.resolve, PropertySpec.names, keyless t key, side]

theorem onlyKnows_compute {list : Token → Context → Option (List Declaration)}
    (known : OnlyKnows keys list) : OnlyKnows keys (Entry.compute list).resolve := by
  intro t unkeyed key unknown
  funext context
  rw [Entry.resolve, Entry.resolve, known t unkeyed key unknown]

/-- A listing by rules knows the keys of the rules. -/
theorem onlyKnows_bySelectedRule {rules : List (Rule (Token → Context → List Declaration))}
    {otherwise : Token → Context → List Declaration}
    (keyless : ∀ r ∈ rules, r.Keyless) (rest : IsKeyless otherwise) :
    OnlyKnows (rules.map Rule.key) (bySelectedRule rules otherwise) := by
  intro t unkeyed key unknown
  have same : (firstMatch rules { t with key := key }).getD otherwise { t with key := key } =
      (firstMatch rules t).getD otherwise t := onlyKnows_selected keyless rest t unkeyed key unknown
  funext context
  rw [bySelectedRule, bySelectedRule, same]

theorem onlyKnows_text : OnlyKnows (textRules.map Rule.key) (bySelectedRule textRules textColor) := by
  refine onlyKnows_bySelectedRule ?_ fun _ _ => rfl
  simp only [textRules, List.forall_mem_cons]
  exact ⟨⟨fun _ _ => rfl, fun _ _ => rfl⟩, ⟨fun _ _ => rfl, fun _ _ => rfl⟩,
    ⟨fun _ _ => rfl, fun _ _ => rfl⟩, ⟨fun _ _ => rfl, fun _ _ => rfl⟩,
    ⟨fun _ _ => rfl, fun _ _ => rfl⟩, List.forall_mem_nil _⟩

theorem onlyKnows_font : OnlyKnows (fontRules.map Rule.key) (bySelectedRule fontRules fontFamily) := by
  refine onlyKnows_bySelectedRule ?_ fun _ _ => rfl
  simp only [fontRules, List.forall_mem_cons]
  exact ⟨⟨fun _ _ => rfl, fun _ _ => rfl⟩, ⟨fun _ _ => rfl, fun _ _ => rfl⟩,
    List.forall_mem_nil _⟩

theorem onlyKnows_decoration :
    OnlyKnows (decorationRules.map Rule.key) (bySelectedRule decorationRules decorationColor) := by
  refine onlyKnows_bySelectedRule ?_ fun _ _ => rfl
  simp only [decorationRules, List.forall_mem_cons]
  exact ⟨⟨fun _ _ => rfl, fun _ _ => rfl⟩, ⟨fun _ _ => rfl, fun _ _ => rfl⟩,
    ⟨fun _ _ => rfl, fun _ _ => rfl⟩, List.forall_mem_nil _⟩

/-- A line knows a color, a style and its sides. -/
theorem onlyKnows_line (family : LineFamily) (named : "" ∉ family.sides.map Prod.fst) :
    OnlyKnows (["color", "style"] ++ family.sides.map Prod.fst) family.declarations := by
  intro t unkeyed key unknown
  rw [List.mem_append, not_or] at unknown
  have selected : firstMatch family.rules { t with key := key } = firstMatch family.rules t := by
    refine onlyKnows_firstMatch ?_ t unkeyed key unknown.1
    simp only [LineFamily.rules, List.forall_mem_cons]
    exact ⟨fun _ _ => rfl, fun _ _ => rfl, List.forall_mem_nil _⟩
  have side : family.sides.lookup key = family.sides.lookup t.key :=
    onlyKnows_lookup named t unkeyed key unknown.2
  funext context
  simp only [LineFamily.declarations, LineFamily.widthProperty, selected, side]
  rfl

theorem onlyKnows_ring : OnlyKnows ["inset"] ringDeclarations := by
  refine onlyKnows_of_flag (by decide) fun t key inset => ?_
  funext context
  simp only [ringDeclarations, inset]
  rfl

theorem onlyKnows_shadow : OnlyKnows ["inset"] shadowDeclarations := by
  refine onlyKnows_of_flag (by decide) fun t key inset => ?_
  funext context
  simp only [shadowDeclarations, inset]
  rfl

theorem onlyKnows_dropShadow : OnlyKnows ["color"] dropShadowDeclarations := by
  refine onlyKnows_of_flag (by decide) fun t key color => ?_
  funext context
  simp only [dropShadowDeclarations, color]
  rfl

/-- The declarations of the rule that is selected, or else a whole transition. -/
theorem transitionDeclarations_eq (t : Token) :
    transitionDeclarations t =
      if t.value.isEmpty && valueKeys.contains t.key then none
      else some ((firstMatch transitionRules t).getD (fun t => [⟨"transition", t.joined⟩]) t) := by
  rw [transitionDeclarations]
  cases firstMatch transitionRules t <;> rfl

/-- The keys that are turned down without a value are keys of rules, so that no other is turned down. -/
theorem onlyKnows_transition :
    OnlyKnows (transitionRules.map Rule.key) fun t (_ : Context) => transitionDeclarations t := by
  intro t unkeyed key unknown
  have keyless : ∀ r ∈ transitionRules, r.Keyless := by
    simp only [transitionRules, List.forall_mem_cons]
    exact ⟨⟨fun _ _ => rfl, fun _ _ => rfl⟩, ⟨fun _ _ => rfl, fun _ _ => rfl⟩,
      ⟨fun _ _ => rfl, fun _ _ => rfl⟩, ⟨fun _ _ => rfl, fun _ _ => rfl⟩, List.forall_mem_nil _⟩
  have rest : IsKeyless fun t : Token => [(⟨"transition", t.joined⟩ : Declaration)] := fun _ _ => rfl
  have same := onlyKnows_selected keyless rest t unkeyed key unknown
  have accepted : valueKeys.contains key = valueKeys.contains t.key := by
    have listed : ∀ name ∈ valueKeys, name ∈ transitionRules.map Rule.key := by decide
    have other : key ∉ valueKeys := fun inside => unknown (listed key inside)
    have unnamed : t.key ∉ valueKeys := by
      rw [unkeyed]
      decide
    simp [other, unnamed]
  funext context
  dsimp only at same ⊢
  rw [transitionDeclarations_eq, transitionDeclarations_eq, same, accepted]

/-! ## All utilities -/

/-- The keys that utilities register. -/
def keyRegister : List (String × List String) :=
  [("border", ["color", "style", "x", "y", "t", "r", "b", "l"]), ("outline", ["color", "style"]),
   ("ring", ["inset"]), ("shadow", ["inset"]), ("drop-shadow", ["color"]),
   ("text", ["color", "align", "wrap", "overflow", "size"]), ("font", ["weight", "family"]),
   ("decoration", ["color", "style", "length"]),
   ("transition", ["property", "behavior", "duration", "delay"]), ("w", ["min", "max"]),
   ("h", ["min", "max"]), ("p", ["x", "y", "t", "r", "b", "l"]),
   ("m", ["x", "y", "t", "r", "b", "l"]),
   ("radius", ["t", "r", "b", "l", "tl", "tr", "br", "bl"])]

/-- The keys that a utility registers, which are none for most utilities. -/
def registeredKeys (utility : String) : List String := (keyRegister.lookup utility).getD []

/-- The entry knows the keys that its utility registers, and no others. -/
def KnowsItsKeys (utility : String) (e : Entry) : Prop :=
  utility ≠ "bg" → OnlyKnows (registeredKeys utility) e.resolve

variable {utility : String}

/-- One value whose making does not look at the key. -/
theorem knowsItsKeys_fixed {names : List String} (keyless : IsKeyless value.value?) :
    KnowsItsKeys utility (.declare (.fixed names) value) := fun _ => onlyKnows_fixed keyless

theorem knowsItsKeys_directional {base : List String} {table : List (String × List String)}
    (registered : registeredKeys utility = table.map Prod.fst) (named : "" ∉ table.map Prod.fst)
    (keyless : IsKeyless value.value?) :
    KnowsItsKeys utility (.declare (.directional base table) value) := by
  intro _
  rw [registered]
  exact onlyKnows_directional named keyless

theorem knowsItsKeys_compute {list : Token → Context → Option (List Declaration)}
    (registered : registeredKeys utility = keys) (known : OnlyKnows keys list) :
    KnowsItsKeys utility (.compute list) := by
  intro _
  rw [registered]
  exact onlyKnows_compute known

/-- Some utilities list declarations for every token. -/
theorem knowsItsKeys_some {list : Token → Context → List Declaration}
    (registered : registeredKeys utility = keys) (known : OnlyKnows keys list) :
    KnowsItsKeys utility (.compute fun t context => some (list t context)) := by
  refine knowsItsKeys_compute registered fun t unkeyed key unknown => ?_
  rw [known t unkeyed key unknown]

/-- Every entry of every built-in table but the background knows the keys of its utility. -/
theorem knowsItsKeys_of_mem_builtinTables :
    ∀ table ∈ builtinTables, ∀ item ∈ table.entries, KnowsItsKeys item.1 item.2 := by
  simp only [builtinTables, List.forall_mem_cons]
  refine ⟨?defaults, ?sizing, ?filters, ?spacing, ?background, ?typography, ?borders, ?effects,
    ?transitions, ?transforms, List.forall_mem_nil _⟩
  case defaults =>
    refine List.forall_mem_append.mpr ⟨?_, ?_⟩
    · exact List.forall_mem_map.mpr fun item _ => knowsItsKeys_fixed fun _ _ => rfl
    · simp only [templateEntries, List.forall_mem_cons]
      exact ⟨knowsItsKeys_fixed fun _ _ => rfl, knowsItsKeys_fixed fun _ _ => rfl,
        knowsItsKeys_fixed fun _ _ => rfl, knowsItsKeys_fixed fun _ _ => rfl,
        knowsItsKeys_fixed fun _ _ => rfl, knowsItsKeys_fixed fun _ _ => rfl,
        knowsItsKeys_fixed fun _ _ => rfl, knowsItsKeys_fixed fun _ _ => rfl, List.forall_mem_nil _⟩
  case sizing =>
    refine List.forall_mem_append.mpr ⟨?_, ?_⟩
    · exact List.forall_mem_map.mpr fun item _ => knowsItsKeys_fixed fun _ _ => rfl
    · exact List.forall_mem_singleton.mpr (knowsItsKeys_fixed fun _ _ => rfl)
  case filters =>
    refine List.forall_mem_append.mpr ⟨?_, ?_⟩
    · simp only [List.forall_mem_cons]
      exact ⟨knowsItsKeys_fixed fun _ _ => rfl, knowsItsKeys_fixed fun _ _ => rfl,
        knowsItsKeys_some rfl onlyKnows_dropShadow, knowsItsKeys_fixed fun _ _ => rfl,
        List.forall_mem_nil _⟩
    · refine List.forall_mem_flatMap.mpr fun f _ => ?_
      simp only [filterEntries, List.forall_mem_cons]
      exact ⟨knowsItsKeys_fixed fun _ _ => rfl, knowsItsKeys_fixed fun _ _ => rfl,
        List.forall_mem_nil _⟩
  case spacing =>
    exact ⟨knowsItsKeys_directional rfl (by decide) fun _ _ => rfl,
      knowsItsKeys_directional rfl (by decide) fun _ _ => rfl, knowsItsKeys_fixed fun _ _ => rfl,
      knowsItsKeys_directional rfl (by decide) fun _ _ => rfl,
      knowsItsKeys_directional rfl (by decide) fun _ _ => rfl, List.forall_mem_nil _⟩
  case background =>
    exact ⟨fun other => absurd rfl other, knowsItsKeys_fixed fun _ _ => rfl,
      knowsItsKeys_fixed fun _ _ => rfl, List.forall_mem_nil _⟩
  case typography =>
    exact ⟨knowsItsKeys_compute rfl onlyKnows_text, knowsItsKeys_compute rfl onlyKnows_font,
      knowsItsKeys_fixed fun _ _ => rfl, knowsItsKeys_fixed fun _ _ => rfl,
      knowsItsKeys_compute rfl onlyKnows_decoration, knowsItsKeys_fixed fun _ _ => rfl,
      knowsItsKeys_fixed fun _ _ => rfl, List.forall_mem_nil _⟩
  case borders =>
    have keyless : IsKeyless ringOffsetDeclarations := fun _ _ => rfl
    exact ⟨knowsItsKeys_directional rfl (by decide) fun _ _ => rfl,
      knowsItsKeys_some rfl (onlyKnows_line borderLine (by decide)),
      knowsItsKeys_some rfl (onlyKnows_line outlineLine (by decide)),
      knowsItsKeys_some rfl onlyKnows_ring, knowsItsKeys_some rfl keyless.onlyKnows,
      List.forall_mem_nil _⟩
  case effects =>
    exact ⟨knowsItsKeys_some rfl onlyKnows_shadow, List.forall_mem_nil _⟩
  case transitions =>
    exact ⟨knowsItsKeys_compute rfl onlyKnows_transition, knowsItsKeys_fixed fun _ _ => rfl,
      knowsItsKeys_fixed fun _ _ => rfl, knowsItsKeys_fixed fun _ _ => rfl, List.forall_mem_nil _⟩
  case transforms =>
    have keyless (axis : String) : IsKeyless (axisDeclarations axis) := fun _ _ => rfl
    exact ⟨knowsItsKeys_fixed fun _ _ => rfl, knowsItsKeys_compute rfl (keyless "x").onlyKnows,
      knowsItsKeys_compute rfl (keyless "y").onlyKnows, List.forall_mem_nil _⟩

/-- A key that a utility does not register changes nothing. -/
theorem unknown_key_is_ignored (utility : String) (other : utility ≠ "bg") (t : Token)
    (context : Context) (unkeyed : t.key = "") (key : String)
    (unknown : key ∉ registeredKeys utility) :
    builtinTable.resolve utility { t with key := key } context =
      builtinTable.resolve utility t context := by
  cases found : builtinTable.entry? utility with
  | none => rw [PropertyTable.resolve, PropertyTable.resolve, found]
  | some e =>
    have known := holds_of_found KnowsItsKeys knowsItsKeys_of_mem_builtinTables found other
    rw [PropertyTable.resolve_of_found found, PropertyTable.resolve_of_found found,
      known t unkeyed key unknown]

/-- The key for sides of a border is none of a transition, so that the value is found to be a duration. -/
theorem unknown_key_of_transition_is_ignored :
    "transition" ≠ "bg" ∧ Token.key ⟨"", "300", "", "", ""⟩ = "" ∧
    "x" ∉ registeredKeys "transition" ∧
    builtinTable.resolve "transition" ⟨"x", "300", "", "", ""⟩ {} =
      builtinTable.resolve "transition" ⟨"", "300", "", "", ""⟩ {} := by
  have unknown : "x" ∉ registeredKeys "transition" := by decide
  exact ⟨by decide, rfl, unknown,
    unknown_key_is_ignored "transition" (by decide) ⟨"", "300", "", "", ""⟩ {} rfl "x" unknown⟩

end UtilityCss.Utility
