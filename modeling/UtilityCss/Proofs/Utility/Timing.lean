import UtilityCss.Proofs.Utility.Builtin
import UtilityCss.Proofs.Utility.NormalForm

/-!
# Durations and delays

How long a transition takes and when it starts is set by utilities of their own, or by keys of the
transition utility. The utilities put the unit of plain numbers behind every value that has no unit. The
key for durations knows the initial value, and the key for delays knows values that are times already;
there the two ways part.
-/
namespace UtilityCss.Utility

open UtilityCss.Text PropertyTable

variable {t : Token} {context : Context} {a b : String}

/-! ## Texts without white space -/

def NoBlank (text : String) : Prop := ∀ c ∈ text.toList, isCssBlank c = false

theorem all_eq_true_iff_noBlank {text : String} :
    (text.toList.all fun c => !isCssBlank c) = true ↔ NoBlank text := by
  simp [NoBlank]

instance decidableNoBlank (text : String) : Decidable (NoBlank text) :=
  decidable_of_iff _ all_eq_true_iff_noBlank

theorem noBlank_append : NoBlank (a ++ b) ↔ NoBlank a ∧ NoBlank b := by
  simp only [NoBlank, String.toList_append, List.mem_append, or_imp, forall_and]

theorem Token.Unbroken.noBlank_value (h : t.Unbroken) : NoBlank t.value := h _ (by simp [parts])

theorem Token.Unbroken.noBlank_unit (h : t.Unbroken) : NoBlank t.unit := h _ (by simp [parts])

theorem Token.Unbroken.noBlank_joined (h : t.Unbroken) : NoBlank t.joined :=
  noBlank_append.mpr ⟨h.noBlank_value, h.noBlank_unit⟩

/-- A value without white space is written as it is read. -/
theorem canonical_of_noBlank {property value : String} (name : IsPropertyName property)
    (present : value ≠ "") (clean : NoBlank value) (oneItem : OneItem value) :
    Declaration.Canonical ⟨property, value⟩ :=
  ⟨name, present, trimmed_of_forall clean, oneItem⟩

/-! ## The unit -/

theorem noBlank_withTimeUnit (h : t.Unbroken) : NoBlank (withTimeUnit t) := by
  refine noBlank_append.mpr ⟨h.noBlank_value, ?_⟩
  split
  · decide
  · exact h.noBlank_unit

theorem withTimeUnit_of_unit (unit : t.unit ≠ "") : withTimeUnit t = t.joined := by
  simp [withTimeUnit, Token.joined, unit]

/-- There always is a unit in the end. -/
theorem withTimeUnit_ne_value (t : Token) : withTimeUnit t ≠ t.value := by
  intro same
  have absent : (if t.unit.isEmpty then "ms" else t.unit) = "" := by simpa [withTimeUnit] using same
  split at absent
  · exact absurd absent (by decide)
  · next unit => exact unit (by simp [absent])

theorem canonical_withTimeUnit {property : String} (name : IsPropertyName property)
    (present : t.value ≠ "") (oneItem : t.OneItem) (unbroken : t.Unbroken) :
    Declaration.Canonical ⟨property, withTimeUnit t⟩ :=
  canonical_of_noBlank name (append_ne_empty present) (noBlank_withTimeUnit unbroken)
    (oneItem_withTimeUnit oneItem)

/-! ## What the keys make of a value -/

/-- The value that the key for durations gives. -/
def keyedDuration (t : Token) : String :=
  if t.value == "initial" then "initial" else withTimeUnit t

/-- The value that the key for delays gives. -/
def keyedDelay (t : Token) : String :=
  if Value.isTime t.joined then t.joined else withTimeUnit t

theorem withTimeUnit_eq_keyedDuration_iff (t : Token) :
    withTimeUnit t = keyedDuration t ↔ t.value ≠ "initial" := by
  rw [keyedDuration]
  split
  · next initial =>
    have initial : t.value = "initial" := by simpa using initial
    exact iff_of_false (initial ▸ withTimeUnit_ne_value t) (not_not_intro initial)
  · next other => exact iff_of_true rfl (by simpa using other)

theorem withTimeUnit_eq_keyedDelay_iff (t : Token) :
    withTimeUnit t = keyedDelay t ↔ ¬ (t.unit = "" ∧ Value.isTime t.value = true) := by
  by_cases unitless : t.unit = ""
  · rw [keyedDelay, Token.joined_of_unitless unitless]
    split
    · next time => exact iff_of_false (withTimeUnit_ne_value t) (not_not_intro ⟨unitless, time⟩)
    · next other => exact iff_of_true rfl fun both => other both.2
  · have same : keyedDelay t = t.joined := by
      rw [keyedDelay, withTimeUnit_of_unit unitless, ite_self]
    rw [same, withTimeUnit_of_unit unitless]
    exact iff_of_true rfl fun both => unitless both.1

theorem canonical_keyedDuration (present : t.value ≠ "") (oneItem : t.OneItem)
    (unbroken : t.Unbroken) : Declaration.Canonical ⟨"transition-duration", keyedDuration t⟩ := by
  rw [keyedDuration]
  split
  · exact ⟨by decide, by decide, by decide, by decide⟩
  · exact canonical_withTimeUnit (by decide) present oneItem unbroken

theorem canonical_keyedDelay (present : t.value ≠ "") (oneItem : t.OneItem) (unbroken : t.Unbroken) :
    Declaration.Canonical ⟨"transition-delay", keyedDelay t⟩ := by
  rw [keyedDelay]
  split
  · exact canonical_of_noBlank (by decide) (Token.joined_ne_empty present) unbroken.noBlank_joined
      oneItem.joined
  · exact canonical_withTimeUnit (by decide) present oneItem unbroken

/-! ## Both ways -/

theorem entry?_duration : builtinTable.entry? "duration" = some duration := by
  rw [entry?_builtinTable]
  rfl

theorem entry?_delay : builtinTable.entry? "delay" = some delay := by
  rw [entry?_builtinTable]
  rfl

theorem entry?_transition : builtinTable.entry? "transition" = some transition := by
  rw [entry?_builtinTable]
  rfl

/-- A key of a rule decides alone, if there is a value. -/
theorem transitionDeclarations_of_key {r : Rule (Token → List Declaration)} (present : t.value ≠ "")
    (named : keyed? transitionRules t = some r) :
    transitionDeclarations t = some (r.outcome t) := by
  rw [transitionDeclarations, if_neg (by simp [present]), firstMatch_of_keyed? named]

/-- A time as a utility of its own and as a key both resolve to one declaration of the same property. -/
theorem exists_timings {utility camel property value : String}
    {r : Rule (Token → List Declaration)} (context : Context) (present : t.value ≠ "")
    (found : builtinTable.entry? utility = some (timeEntry camel))
    (kebab : toKebabCase camel = property)
    (canonical : Declaration.Canonical ⟨property, value⟩)
    (named : keyed? transitionRules { t with key := utility } = some r)
    (listed : r.outcome { t with key := utility } = [⟨property, value⟩]) :
    ∃ own keyed, builtinTable.resolve utility t context = some own ∧
      builtinTable.resolve "transition" { t with key := utility } context = some keyed ∧
      own.declarations = [⟨property, withTimeUnit t⟩] ∧ keyed.declarations = [⟨property, value⟩] := by
  refine ⟨.properties [camel] (withTimeUnit t), .text (renderDeclarations [⟨property, value⟩]),
    ?own, ?keyed, ?written, ?readBack⟩
  case own =>
    rw [resolve_of_found found]
    simp [timeEntry, Entry.property, Entry.resolve, ValueSpec.value?, PropertySpec.names, present]
  case keyed =>
    have given : Token.value { t with key := utility } ≠ "" := present
    rw [resolve_of_found entry?_transition, transition, Entry.resolve,
      transitionDeclarations_of_key given named, Option.map_some, listed]
  case written => rw [Resolved.declarations, List.map_singleton, kebab]
  case readBack => exact parse_render_of_canonical (List.forall_mem_singleton.mpr canonical)

/-- Durations and delays resolve to one declaration each, both as utilities of their own and by key.
The utility for durations and the key for durations declare the same unless the value is the initial
one, behind which the utility puts a unit. The utility for delays and the key for delays do so unless
the value is a time already, behind which the utility puts another unit. -/
theorem timing_utilities_agree_iff (t : Token) (context : Context) (present : t.value ≠ "")
    (oneItem : t.OneItem) (unbroken : t.Unbroken) :
    (∃ own keyed, builtinTable.resolve "duration" t context = some own ∧
      builtinTable.resolve "transition" { t with key := "duration" } context = some keyed ∧
      own.declarations = [⟨"transition-duration", withTimeUnit t⟩] ∧
      keyed.declarations = [⟨"transition-duration", keyedDuration t⟩] ∧
      (own.declarations = keyed.declarations ↔ t.value ≠ "initial")) ∧
    ∃ own keyed, builtinTable.resolve "delay" t context = some own ∧
      builtinTable.resolve "transition" { t with key := "delay" } context = some keyed ∧
      own.declarations = [⟨"transition-delay", withTimeUnit t⟩] ∧
      keyed.declarations = [⟨"transition-delay", keyedDelay t⟩] ∧
      (own.declarations = keyed.declarations ↔ ¬ (t.unit = "" ∧ Value.isTime t.value = true)) := by
  constructor
  · obtain ⟨own, keyed, resolved, resolvedKey, written, keyedWritten⟩ :=
      exists_timings context present entry?_duration (by decide +kernel)
        (canonical_keyedDuration present oneItem unbroken) rfl rfl
    refine ⟨own, keyed, resolved, resolvedKey, written, keyedWritten, ?_⟩
    rw [written, keyedWritten, ← withTimeUnit_eq_keyedDuration_iff]
    simp
  · obtain ⟨own, keyed, resolved, resolvedKey, written, keyedWritten⟩ :=
      exists_timings context present entry?_delay (by decide +kernel)
        (canonical_keyedDelay present oneItem unbroken) rfl rfl
    refine ⟨own, keyed, resolved, resolvedKey, written, keyedWritten, ?_⟩
    rw [written, keyedWritten, ← withTimeUnit_eq_keyedDelay_iff]
    simp

/-- Two seconds with their unit are the same both ways. -/
theorem timing_utilities_agree_for_seconds :
    Token.value ⟨"", "2", "s", "", ""⟩ ≠ "" ∧ Token.OneItem ⟨"", "2", "s", "", ""⟩ ∧
    Token.Unbroken ⟨"", "2", "s", "", ""⟩ ∧
    (∃ own keyed, builtinTable.resolve "duration" ⟨"", "2", "s", "", ""⟩ {} = some own ∧
      builtinTable.resolve "transition" ⟨"duration", "2", "s", "", ""⟩ {} = some keyed ∧
      own.declarations = keyed.declarations) ∧
    ∃ own keyed, builtinTable.resolve "delay" ⟨"", "2", "s", "", ""⟩ {} = some own ∧
      builtinTable.resolve "transition" ⟨"delay", "2", "s", "", ""⟩ {} = some keyed ∧
      own.declarations = keyed.declarations := by
  have present : Token.value ⟨"", "2", "s", "", ""⟩ ≠ "" := by decide
  have oneItem : Token.OneItem ⟨"", "2", "s", "", ""⟩ := by decide
  have unbroken : Token.Unbroken ⟨"", "2", "s", "", ""⟩ := by decide
  obtain ⟨⟨own, keyed, resolved, resolvedKey, -, -, agree⟩, ⟨own', keyed', resolved', resolvedKey',
    -, -, agree'⟩⟩ := timing_utilities_agree_iff ⟨"", "2", "s", "", ""⟩ {} present oneItem unbroken
  exact ⟨present, oneItem, unbroken, ⟨own, keyed, resolved, resolvedKey, agree.mpr (by decide)⟩,
    ⟨own', keyed', resolved', resolvedKey', agree'.mpr (by decide)⟩⟩

/-- The initial duration and a delay in seconds without a unit of its own are taken for numbers of
milliseconds. -/
theorem timing_utilities_append_unit :
    (builtinTable.resolve "duration" ⟨"", "initial", "", "", ""⟩ {}).map Resolved.declarations =
      some [⟨"transition-duration", "initialms"⟩] ∧
    (builtinTable.resolve "transition" ⟨"duration", "initial", "", "", ""⟩ {}).map
      Resolved.declarations = some [⟨"transition-duration", "initial"⟩] ∧
    (builtinTable.resolve "delay" ⟨"", "2s", "", "", ""⟩ {}).map Resolved.declarations =
      some [⟨"transition-delay", "2sms"⟩] ∧
    (builtinTable.resolve "transition" ⟨"delay", "2s", "", "", ""⟩ {}).map
      Resolved.declarations = some [⟨"transition-delay", "2s"⟩] := by
  simp only [resolve_of_found entry?_duration, resolve_of_found entry?_delay,
    resolve_of_found entry?_transition]
  decide +kernel

end UtilityCss.Utility
