import Mathlib.Data.List.Basic
import UtilityCss.Command.Arguments

/-!
# Which arguments a command accepts

Arguments are accepted exactly if they are items one after another, and then in one way only: no item begins
like another, and a value is taken with its flag whatever it looks like. Otherwise the items end at an
argument that starts none, and the message tells whether it is the last. Reading two accepted lists one
after the other is reading both and letting the second override the first.
-/
namespace UtilityCss.Command

variable {words rest : List String} {item : Item} {items : List Item} {a text : String}

/-! ## Items -/

/-- An item that can be given as it is: a positional text does not start with two hyphens. -/
def Item.Proper : Item → Prop
  | .positional text => ¬ "--".toList <+: text.toList
  | .dark => True
  | .setting _ _ => True

/-- The arguments are the items, one after another. -/
def Gives (words : List String) (items : List Item) : Prop :=
  (∀ item ∈ items, item.Proper) ∧ words = items.flatMap Item.words

/-- What items say: the positional texts in their order, whether darkness is asked for, and the value that
each setting is given last. -/
structure Says (items : List Item) (args : Arguments) : Prop where
  positionals : args.positionals = items.filterMap Item.positional?
  dark : args.dark = true ↔ .dark ∈ items
  setting : ∀ s v, args.setting? s = some v ↔
    ∃ before after, items = before ++ .setting s v :: after ∧ ∀ w, Item.setting s w ∉ after

/-- No item starts with the first of the arguments. -/
def StartsNoItem (words : List String) : Prop :=
  ∀ item : Item, item.Proper → ∀ rest, words ≠ item.words ++ rest

/-- Behind items stands an argument that starts none. What is said about it depends on whether it is the
last. -/
inductive Stops : List String → String → Prop where
  | last {front : List String} {items : List Item} {a : String} (given : Gives front items)
      (stuck : StartsNoItem [a]) : Stops (front ++ [a]) (a ++ " needs a value")
  | inside {front rest : List String} {items : List Item} {a b : String} (given : Gives front items)
      (stuck : StartsNoItem (a :: b :: rest)) : Stops (front ++ a :: b :: rest) ("unknown flag " ++ a)

theorem Gives.cons (proper : item.Proper) (given : Gives words items) :
    Gives (item.words ++ words) (item :: items) :=
  ⟨List.forall_mem_cons.mpr ⟨proper, given.1⟩, by rw [given.2, List.flatMap_cons]⟩

theorem Stops.cons (proper : item.Proper) (stops : Stops words text) :
    Stops (item.words ++ words) text := by
  cases stops with
  | last given stuck =>
    rw [← List.append_assoc]
    exact .last (given.cons proper) stuck
  | inside given stuck =>
    rw [← List.append_assoc]
    exact .inside (given.cons proper) stuck

theorem valueOf?_eq_some_iff {s : Setting} {v : String} :
    item.valueOf? s = some v ↔ item = .setting s v := by
  cases item with
  | positional text => simp [Item.valueOf?]
  | dark => simp [Item.valueOf?]
  | setting t w => simp [Item.valueOf?]

theorem filterMap_valueOf?_eq_nil_iff {s : Setting} :
    items.filterMap (Item.valueOf? s) = [] ↔ ∀ w, Item.setting s w ∉ items := by
  rw [List.filterMap_eq_nil_iff]
  constructor
  · intro none w inside
    have valued := valueOf?_eq_some_iff.mpr (rfl : Item.setting s w = .setting s w)
    rw [none _ inside] at valued
    cases valued
  · intro absent item inside
    rw [Option.eq_none_iff_forall_ne_some]
    intro w valued
    exact absent w (valueOf?_eq_some_iff.mp valued ▸ inside)

/-- The value of a setting is the one behind which it is not set again. -/
theorem setting?_ofItems_iff {s : Setting} {v : String} :
    (Arguments.ofItems items).setting? s = some v ↔
      ∃ before after, items = before ++ .setting s v :: after ∧ ∀ w, Item.setting s w ∉ after := by
  rw [Arguments.ofItems, List.getLast?_eq_some_iff]
  constructor
  · rintro ⟨earlier, last⟩
    obtain ⟨front, back, rfl, -, found⟩ := List.filterMap_eq_append_iff.mp last
    obtain ⟨unrelated, item, after, rfl, -, valued, none⟩ := List.filterMap_eq_cons_iff.mp found
    refine ⟨front ++ unrelated, after, ?_, filterMap_valueOf?_eq_nil_iff.mp none⟩
    rw [valueOf?_eq_some_iff.mp valued, List.append_assoc]
  · rintro ⟨before, after, rfl, none⟩
    refine ⟨before.filterMap (Item.valueOf? s), ?_⟩
    rw [List.filterMap_append, List.filterMap_cons_some (valueOf?_eq_some_iff.mpr rfl),
      filterMap_valueOf?_eq_nil_iff.mpr none]

theorem says_ofItems (items : List Item) : Says items (.ofItems items) where
  positionals := rfl
  dark := List.contains_iff_mem
  setting _ _ := setting?_ofItems_iff

/-- Nothing more can be known of arguments than what their items say. -/
theorem Says.unique {args : Arguments} (said : Says items args) : .ofItems items = args := by
  have same := says_ofItems items
  obtain ⟨positionals, dark, setting?⟩ := args
  rw [Arguments.ofItems, Arguments.mk.injEq]
  refine ⟨said.positionals.symm, ?_, ?_⟩
  · exact Bool.eq_iff_iff.mpr (same.dark.trans said.dark.symm)
  · funext s
    exact Option.ext fun v => (same.setting s v).trans (said.setting s v).symm

theorem Gives.append {first second : List String} {items more : List Item} (given : Gives first items)
    (after : Gives second more) : Gives (first ++ second) (items ++ more) :=
  ⟨List.forall_mem_append.mpr ⟨given.1, after.1⟩, by rw [given.2, after.2, List.flatMap_append]⟩

end UtilityCss.Command
