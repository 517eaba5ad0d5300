import UtilityCss.Utility.Rule

/-!
# The rule of a token

A key that is the key of a rule decides alone. Without such a key the first rule that accepts the token
is taken, so that an unknown key counts as no key at all.
-/
namespace UtilityCss.Utility

variable {α : Type} {rules : List (Rule α)} {t : Token}

/-- The key of the token is the key of a rule. -/
def Token.HasKeyOf (t : Token) (rules : List (Rule α)) : Prop :=
  t.key ≠ "" ∧ t.key ∈ rules.map Rule.key

theorem keyed?_eq_none_iff : keyed? rules t = none ↔ ¬ t.HasKeyOf rules := by
  by_cases unkeyed : t.key = ""
  · simp [keyed?, Token.HasKeyOf, unkeyed]
  · simp [keyed?, Token.HasKeyOf, unkeyed, List.find?_eq_none]

theorem of_keyed?_eq_some {r : Rule α} (h : keyed? rules t = some r) :
    r ∈ rules ∧ r.key = t.key ∧ t.key ≠ "" := by
  rw [keyed?] at h
  split at h
  · cases h
  · next named =>
    have found := List.find?_some h
    exact ⟨List.mem_of_find?_eq_some h, by simpa using found, by simpa using named⟩

theorem firstMatch_of_keyed? {r : Rule α} (h : keyed? rules t = some r) :
    firstMatch rules t = some r.outcome := by
  rw [firstMatch, h]
  rfl

/-- Without the key of a rule, the token itself decides. -/
theorem firstMatch_of_unknown (h : ¬ t.HasKeyOf rules) :
    firstMatch rules t = (rules.find? (·.accepts t)).map Rule.outcome := by
  rw [firstMatch, keyed?_eq_none_iff.mpr h, Option.none_or]

theorem not_hasKeyOf_of_unkeyed (unkeyed : t.key = "") : ¬ t.HasKeyOf rules :=
  fun named => named.1 unkeyed

/-- Whatever is selected is the outcome of a rule that the key names or that accepts the token. -/
theorem exists_rule_of_firstMatch {o : α} (h : firstMatch rules t = some o) :
    ∃ r ∈ rules, r.outcome = o ∧ (r.key = t.key ∧ t.key ≠ "" ∨ r.accepts t = true) := by
  cases named : keyed? rules t with
  | some r =>
    rw [firstMatch_of_keyed? named] at h
    obtain ⟨inside, key⟩ := of_keyed?_eq_some named
    exact ⟨r, inside, Option.some.inj h, Or.inl key⟩
  | none =>
    rw [firstMatch_of_unknown (keyed?_eq_none_iff.mp named)] at h
    obtain ⟨r, found, outcome⟩ := Option.map_eq_some_iff.mp h
    have accepts : r.accepts t = true := by simpa using List.find?_some found
    exact ⟨r, List.mem_of_find?_eq_some found, outcome, Or.inr accepts⟩

/-- The first rule comes before the others, unless the key is that of another rule. -/
theorem firstMatch_cons_of_accepts {r : Rule α} (unknown : ¬ t.HasKeyOf (r :: rules))
    (accepts : r.accepts t = true) : firstMatch (r :: rules) t = some r.outcome := by
  rw [firstMatch_of_unknown unknown]
  simp [accepts]

/-- The first rule is taken for its key, whatever the token is otherwise. -/
theorem firstMatch_cons_of_key {r : Rule α} (named : t.key ≠ "") (key : r.key = t.key) :
    firstMatch (r :: rules) t = some r.outcome := by
  refine firstMatch_of_keyed? ?_
  rw [keyed?, if_neg (by simpa using named)]
  simp [key]

end UtilityCss.Utility
