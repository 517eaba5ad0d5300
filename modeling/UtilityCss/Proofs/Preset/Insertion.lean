import Mathlib.Data.Finset.Card
import Mathlib.Logic.Function.Basic
import UtilityCss.Proofs.Preset.NamedValue

/-!
# Values that are inserted one by one

Values are inserted under a name in all utilities or in one, in any order. The last value at a place counts.
A name stands for what its utility was given for it, and else for what all utilities were given. Insertions
at different places may change their order: the tables that they leave are listed differently, but no
question that a table answers tells them apart.
-/
namespace UtilityCss.Preset

open OrderedMap

/-- Where a value is inserted: under a name in all utilities or in one. -/
inductive Place where
  | everywhere (name : String)
  | within (utility name : String)
deriving DecidableEq

def Place.nameForAll? : Place → Option String
  | .everywhere name => some name
  | .within _ _ => none

def places (calls : List (Place × String)) : List Place := calls.map Prod.fst

def namesForAll (calls : List (Place × String)) : List String :=
  (places calls).filterMap Place.nameForAll?

theorem mem_namesForAll_iff {calls : List (Place × String)} {name : String} :
    name ∈ namesForAll calls ↔ .everywhere name ∈ places calls := by
  rw [namesForAll, List.mem_filterMap]
  constructor
  · rintro ⟨place, listed, named⟩
    cases place with
    | everywhere other =>
      cases named
      exact listed
    | within => cases named
  · intro listed
    exact ⟨_, listed, rfl⟩

namespace ValueTable

def insertAt (t : ValueTable) : Place → String → ValueTable
  | .everywhere name, value => t.insert name value
  | .within utility name, value => t.insertFor utility name value

def run (t : ValueTable) (calls : List (Place × String)) : ValueTable :=
  calls.foldl (fun t call => t.insertAt call.1 call.2) t

/-- The insertions that make a table with colors: the colors, the fixed names and those of single
utilities. -/
def insertionsWithColors (colors : OrderedMap String String) : List (Place × String) :=
  (colors.toList ++ fixedValues).map (fun e => (.everywhere e.1, e.2)) ++
    fixedValuesForOne.map fun e => (.within e.1.1 e.1.2, e.2)

/-- The table is made by inserting the values at the places in turn. -/
inductive MadeBy : List (Place × String) → ValueTable → Prop where
  | new : MadeBy [] .empty
  | withColors (colors : OrderedMap String String) :
      MadeBy (insertionsWithColors colors) (.withColors colors)
  | inserted {history : List (Place × String)} {t : ValueTable} (before : MadeBy history t)
      (name value : String) : MadeBy (history ++ [(.everywhere name, value)]) (t.insert name value)
  | insertedFor {history : List (Place × String)} {t : ValueTable} (before : MadeBy history t)
      (utility name value : String) :
      MadeBy (history ++ [(.within utility name, value)]) (t.insertFor utility name value)

/-! ## One insertion -/

/-- The values that a utility has of its own, if it was ever given one. -/
def scope? (t : ValueTable) (utility : String) : Option (String → Option String) :=
  (t.forOne.get? utility).map OrderedMap.get?

/-- The value at a place. -/
def valueAt? (t : ValueTable) : Place → Option String
  | .everywhere name => t.forAll.get? name
  | .within utility name => (t.scope? utility).bind fun values => values name

theorem get?_eq_valueAt? (t : ValueTable) (utility name : String) :
    t.get? utility name = (t.valueAt? (.within utility name)).or (t.valueAt? (.everywhere name)) := by
  rw [get?, valueAt?, valueAt?, scope?, Option.bind_map]
  rfl

theorem get?_forAll_insert (t : ValueTable) (name value : String) :
    (t.insert name value).forAll.get? = Function.update t.forAll.get? name (some value) := by
  funext other
  rw [Function.update_apply]
  exact OrderedMap.get?_insert t.forAll name other value

/-- An insertion for one utility changes one value of this utility alone. -/
theorem scope?_insertFor (t : ValueTable) (utility name value : String) :
    (t.insertFor utility name value).scope? =
      Function.update t.scope? utility
        (some (Function.update ((t.scope? utility).getD fun _ => none) name (some value))) := by
  have given (values : OrderedMap String String) :
      (values.insert name value).get? = Function.update values.get? name (some value) := by
    funext other
    rw [Function.update_apply, OrderedMap.get?_insert]
  funext other
  rw [Function.update_apply, scope?, insertFor, OrderedMap.get?_insert]
  by_cases same : other = utility
  · rw [if_pos same, if_pos same, Option.map_some, given, scope?]
    cases t.forOne.get? utility <;> rfl
  · rw [if_neg same, if_neg same, scope?]

/-- An insertion changes the value at its place alone. -/
theorem valueAt?_insertAt (t : ValueTable) (place other : Place) (value : String) :
    (t.insertAt place value).valueAt? other =
      if other = place then some value else t.valueAt? other := by
  cases place with
  | everywhere name =>
    cases other with
    | everywhere key =>
      rw [insertAt, valueAt?, get?_forAll_insert, Function.update_apply]
      simp only [Place.everywhere.injEq, valueAt?]
    | within scope key => rfl
  | within utility name =>
    cases other with
    | everywhere key => rfl
    | within scope key =>
      rw [insertAt, valueAt?, scope?_insertFor, Function.update_apply]
      by_cases same : scope = utility
      · subst same
        rw [if_pos rfl, Option.bind_some, Function.update_apply]
        simp only [Place.within.injEq, true_and, valueAt?]
        cases t.scope? scope <;> rfl
      · simp only [same, Place.within.injEq, false_and, if_false, valueAt?]

/-! ## Runs -/

theorem run_append (t : ValueTable) (calls more : List (Place × String)) :
    t.run (calls ++ more) = (t.run calls).run more :=
  List.foldl_append

theorem withColors_eq_run (colors : OrderedMap String String) :
    withColors colors = empty.run (insertionsWithColors colors) := by
  rw [insertionsWithColors, run_append, List.map_append, run_append]
  simp only [run, List.foldl_map]
  rfl

theorem MadeBy.eq_run {history : List (Place × String)} {t : ValueTable} (made : MadeBy history t) :
    t = empty.run history := by
  induction made with
  | new => rfl
  | withColors colors => exact withColors_eq_run colors
  | inserted before name value ih =>
    rw [run_append, ← ih]
    rfl
  | insertedFor before utility name value ih =>
    rw [run_append, ← ih]
    rfl

/-- The last value that was inserted at a place is there. -/
theorem valueAt?_run (t : ValueTable) (calls : List (Place × String)) (place : Place) :
    (t.run calls).valueAt? place = ((OrderedMap.ofList calls).get? place).or (t.valueAt? place) := by
  induction calls using List.reverseRecOn with
  | nil => rfl
  | append_singleton calls call ih =>
    have last : t.run (calls ++ [call]) = (t.run calls).insertAt call.1 call.2 := run_append t calls _
    rw [last, valueAt?_insertAt, ofList_append_singleton, OrderedMap.get?_insert, ih]
    by_cases same : place = call.1
    · rw [if_pos same, if_pos same, Option.some_or]
    · rw [if_neg same, if_neg same]

theorem valueAt?_run_of_notMem (t : ValueTable) {calls : List (Place × String)} {place : Place}
    (elsewhere : place ∉ places calls) : (t.run calls).valueAt? place = t.valueAt? place := by
  rw [valueAt?_run, get?_ofList_of_notMem elsewhere, Option.none_or]

variable {history : List (Place × String)} {t t' : ValueTable}

theorem MadeBy.valueAt?_eq (made : MadeBy history t) (place : Place) :
    t.valueAt? place = (OrderedMap.ofList history).get? place := by
  have bare : empty.valueAt? place = none := by cases place <;> rfl
  rw [made.eq_run, valueAt?_run, bare, Option.or_none]

theorem MadeBy.get?_eq_some_iff (made : MadeBy history t) {utility name value : String} :
    t.get? utility name = some value ↔
      IsLastValue history (.within utility name) value ∨
        .within utility name ∉ places history ∧ IsLastValue history (.everywhere name) value := by
  rw [get?_eq_valueAt?, made.valueAt?_eq, made.valueAt?_eq, Option.or_eq_some_iff,
    get?_ofList_eq_some_iff, get?_ofList_eq_some_iff, get?_ofList_eq_none_iff, places]

theorem MadeBy.get?_eq_none_iff (made : MadeBy history t) {utility name : String} :
    t.get? utility name = none ↔
      .within utility name ∉ places history ∧ .everywhere name ∉ places history := by
  rw [get?_eq_valueAt?, made.valueAt?_eq, made.valueAt?_eq, Option.or_eq_none_iff,
    get?_ofList_eq_none_iff, get?_ofList_eq_none_iff, places]

/-- What a utility was given for a name stays until it is given something else for the name. -/
theorem MadeBy.get?_run_eq (made : MadeBy history t) {utility name : String}
    (own : .within utility name ∈ places history) {later : List (Place × String)}
    (elsewhere : .within utility name ∉ places later) :
    (t.run later).get? utility name = t.get? utility name := by
  have kept := valueAt?_run_of_notMem t elsewhere
  cases found : t.valueAt? (.within utility name) with
  | none =>
    rw [made.valueAt?_eq, get?_ofList_eq_none_iff] at found
    exact absurd own found
  | some value => rw [get?_eq_valueAt?, get?_eq_valueAt?, kept, found, Option.some_or, Option.some_or]

/-- Insertions under other names, or for other utilities alone, are not seen. -/
theorem get?_run_of_notMem (t : ValueTable) {later : List (Place × String)} {utility name : String}
    (notHere : .within utility name ∉ places later) (notEverywhere : .everywhere name ∉ places later) :
    (t.run later).get? utility name = t.get? utility name := by
  rw [get?_eq_valueAt?, valueAt?_run_of_notMem t notHere, valueAt?_run_of_notMem t notEverywhere,
    get?_eq_valueAt?]

/-! ## Number of names -/

theorem MadeBy.size_eq (made : MadeBy history t) : t.size = (namesForAll history).toFinset.card := by
  have sameNames : t.forAll.keys.toFinset = (namesForAll history).toFinset := by
    ext name
    have absent : name ∉ t.forAll.keys ↔ .everywhere name ∉ places history := by
      rw [OrderedMap.keys, ← lookup_eq_none_iff_notMem, places, ← get?_ofList_eq_none_iff,
        ← made.valueAt?_eq]
      rfl
    rw [List.mem_toFinset, List.mem_toFinset, mem_namesForAll_iff]
    exact not_iff_not.mp absent
  calc t.size = t.forAll.keys.length := (List.length_map _).symm
    _ = t.forAll.keys.toFinset.card := (List.toFinset_card_of_nodup t.forAll.nodup_keys).symm
    _ = (namesForAll history).toFinset.card := congrArg Finset.card sameNames

/-! ## Empty tables -/

/-- Each utility that is listed has a value. -/
def ListsValues (t : ValueTable) : Prop :=
  ∀ utility values, t.scope? utility = some values → ∃ name, values name ≠ none

theorem ListsValues.insertAt (listed : t.ListsValues) (place : Place) (value : String) :
    (t.insertAt place value).ListsValues := by
  cases place with
  | everywhere name => exact listed
  | within utility name =>
    intro other values found
    rw [ValueTable.insertAt, scope?_insertFor, Function.update_apply] at found
    by_cases same : other = utility
    · rw [if_pos same] at found
      cases found
      exact ⟨name, by simp⟩
    · rw [if_neg same] at found
      exact listed other values found

theorem ListsValues.run (listed : t.ListsValues) (calls : List (Place × String)) :
    (t.run calls).ListsValues := by
  induction calls generalizing t with
  | nil => exact listed
  | cons call calls ih => exact ih (listed.insertAt call.1 call.2)

theorem isEmpty_iff_scope? :
    t.isEmpty = true ↔ (∀ name, t.forAll.get? name = none) ∧ ∀ utility, t.scope? utility = none := by
  rw [isEmpty, Bool.and_eq_true, OrderedMap.isEmpty_iff, OrderedMap.isEmpty_iff]
  simp only [scope?, Option.map_eq_none_iff]

theorem MadeBy.isEmpty_iff (made : MadeBy history t) :
    t.isEmpty = true ↔ ∀ utility name, t.get? utility name = none := by
  have listed : t.ListsValues := by
    have bare : empty.ListsValues := by
      intro utility values found
      cases found
    rw [made.eq_run]
    exact bare.run history
  rw [isEmpty_iff_scope?]
  constructor
  · rintro ⟨forAll, forOne⟩ utility name
    rw [get?_eq_valueAt?, valueAt?, valueAt?, forOne, forAll]
    rfl
  · intro nothing
    simp only [get?_eq_valueAt?, Option.or_eq_none_iff] at nothing
    refine ⟨fun name => (nothing "" name).2, fun utility => ?_⟩
    cases found : t.scope? utility with
    | none => rfl
    | some values =>
      obtain ⟨name, something⟩ := listed utility values found
      have here := (nothing utility name).1
      rw [valueAt?, found] at here
      exact absurd here something

/-! ## Exchanged insertions -/

/-- The tables have the same values at the same places, and list the same utilities. -/
structure Same (t t' : ValueTable) : Prop where
  forAll : t.forAll.get? = t'.forAll.get?
  scopes : t.scope? = t'.scope?

theorem Same.insertAt (same : t.Same t') (place : Place) (value : String) :
    (t.insertAt place value).Same (t'.insertAt place value) := by
  cases place with
  | everywhere name =>
    refine ⟨?_, same.scopes⟩
    rw [ValueTable.insertAt, ValueTable.insertAt, get?_forAll_insert, get?_forAll_insert, same.forAll]
  | within utility name =>
    refine ⟨same.forAll, ?_⟩
    rw [ValueTable.insertAt, ValueTable.insertAt, scope?_insertFor, scope?_insertFor, same.scopes]

theorem Same.run (same : t.Same t') (calls : List (Place × String)) :
    (t.run calls).Same (t'.run calls) := by
  induction calls generalizing t t' with
  | nil => exact same
  | cons call calls ih => exact ih (same.insertAt call.1 call.2)

theorem same_insertAt_comm (t : ValueTable) {first second : Place} (different : first ≠ second)
    (value other : String) :
    ((t.insertAt first value).insertAt second other).Same
      ((t.insertAt second other).insertAt first value) := by
  cases first with
  | everywhere name =>
    cases second with
    | everywhere key =>
      have names : name ≠ key := fun same => different (congrArg _ same)
      refine ⟨?_, rfl⟩
      simp only [insertAt, get?_forAll_insert]
      exact Function.update_comm names _ _ _
    | within scope key => exact ⟨rfl, rfl⟩
  | within utility name =>
    cases second with
    | everywhere key => exact ⟨rfl, rfl⟩
    | within scope key =>
      refine ⟨rfl, ?_⟩
      simp only [insertAt, scope?_insertFor]
      by_cases sameScope : utility = scope
      · subst sameScope
        have names : name ≠ key := fun same => different (congrArg _ same)
        simp only [Function.update_self, Function.update_idem, Option.getD_some]
        rw [Function.update_comm names]
      · rw [Function.update_of_ne (Ne.symm sameScope), Function.update_of_ne sameScope,
          Function.update_comm sameScope]

theorem Same.get? (same : t.Same t') (utility name : String) :
    t.get? utility name = t'.get? utility name := by
  rw [get?_eq_valueAt?, get?_eq_valueAt?, valueAt?, valueAt?, valueAt?, valueAt?, same.scopes,
    same.forAll]

theorem Same.size (same : t.Same t') : t.size = t'.size :=
  size_eq_of_get? fun name => congrFun same.forAll name

theorem Same.isEmpty (same : t.Same t') : t.isEmpty = t'.isEmpty := by
  rw [Bool.eq_iff_iff, isEmpty_iff_scope?, isEmpty_iff_scope?, same.forAll, same.scopes]

/-- Whatever a table starts with and in whatever order values are inserted, a name stands for the last value
that its utility was given for it, and else for the last one for all utilities. What a utility was given is
never overridden from elsewhere and never seen in other utilities. Names for all utilities are counted once,
and a table is empty if it has no value for any utility. Insertions at different places may be exchanged,
whatever comes later. -/
theorem value_table_follows_insertions :
    (∀ history t, MadeBy history t →
      (∀ utility name value, t.get? utility name = some value ↔
        IsLastValue history (.within utility name) value ∨
          .within utility name ∉ places history ∧ IsLastValue history (.everywhere name) value) ∧
      (∀ utility name, t.get? utility name = none ↔
        .within utility name ∉ places history ∧ .everywhere name ∉ places history) ∧
      (∀ utility name later, .within utility name ∈ places history →
        .within utility name ∉ places later → (t.run later).get? utility name = t.get? utility name) ∧
      t.size = (namesForAll history).toFinset.card ∧
      (t.isEmpty = true ↔ ∀ utility name, t.get? utility name = none)) ∧
    (∀ (t : ValueTable) utility name later, .within utility name ∉ places later →
      .everywhere name ∉ places later → (t.run later).get? utility name = t.get? utility name) ∧
    (∀ (t : ValueTable) first second value other later, first ≠ second →
      (((t.insertAt first value).insertAt second other).run later).Same
        (((t.insertAt second other).insertAt first value).run later)) ∧
    ∀ t t' : ValueTable, t.Same t' →
      (∀ utility name, t.get? utility name = t'.get? utility name) ∧
      t.size = t'.size ∧ t.isEmpty = t'.isEmpty := by
  refine ⟨fun history t made => ⟨?_, ?_, ?_, made.size_eq, made.isEmpty_iff⟩, ?_, ?_, ?_⟩
  · exact fun _ _ _ => made.get?_eq_some_iff
  · exact fun _ _ => made.get?_eq_none_iff
  · exact fun _ _ _ own elsewhere => made.get?_run_eq own elsewhere
  · exact fun t _ _ _ notHere notEverywhere => t.get?_run_of_notMem notHere notEverywhere
  · exact fun t _ _ _ _ later different => (t.same_insertAt_comm different _ _).run later
  · exact fun t t' same => ⟨same.get?, same.size, same.isEmpty⟩

theorem value_table_follows_insertions_for_none :
    ((withColors .empty).insert "none" "1px").get? "order" "none" = some "0" ∧
      ((withColors .empty).insert "none" "1px").get? "z" "none" = some "1px" ∧
      ((((withColors .empty).insert "none" "1px").insertFor "z" "none" "2px").get? "z" "none" =
        (((withColors .empty).insertFor "z" "none" "2px").insert "none" "1px").get? "z" "none") := by
  have made := MadeBy.inserted (.withColors .empty) "none" "1px"
  obtain ⟨follows, -, exchange, same⟩ := value_table_follows_insertions
  obtain ⟨stands, -⟩ := follows _ _ made
  have order := (stands "order" "none" "0").mpr
    (.inl (get?_ofList_eq_some_iff.mp (by decide +kernel)))
  have elsewhere := (stands "z" "none" "1px").mpr
    (.inr ⟨by decide +kernel, get?_ofList_eq_some_iff.mp (by decide +kernel)⟩)
  have swapped := exchange (withColors .empty) (.everywhere "none") (.within "z" "none") "1px" "2px" []
    (by decide)
  exact ⟨order, elsewhere, (same _ _ swapped).1 "z" "none"⟩

end ValueTable

end UtilityCss.Preset
