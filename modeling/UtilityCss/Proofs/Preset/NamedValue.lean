import UtilityCss.Preset.NamedValue
import UtilityCss.Proofs.OrderedMap
import UtilityCss.Proofs.Palette.Ramp

/-!
# Names of shades beside fixed names

Fixed names come before colors, those of one utility before those of all. No fixed name ends like a
shade, so every shade keeps its value in every utility, and no color takes the place of a fixed name.
-/
namespace UtilityCss.Preset

open UtilityCss.Palette

namespace ValueTable

theorem insertAll_eq (t : ValueTable) (entries : List (String × String)) :
    t.insertAll entries = { t with forAll := t.forAll.insertAll entries } := by
  induction entries generalizing t with
  | nil => rfl
  | cons e r ih => exact ih (t.insert e.1 e.2)

theorem forAll_insertAllFor (t : ValueTable) (entries : List ((String × String) × String)) :
    (t.insertAllFor entries).forAll = t.forAll := by
  induction entries generalizing t with
  | nil => rfl
  | cons e r ih => exact ih (t.insertFor e.1.1 e.1.2 e.2)

/-- The last value that was inserted for a name in one utility comes first. -/
theorem get?_insertAllFor (t : ValueTable) (entries : List ((String × String) × String))
    (utility name : String) :
    (t.insertAllFor entries).get? utility name =
      ((OrderedMap.ofList entries).get? (utility, name)).or (t.get? utility name) := by
  induction entries using List.reverseRecOn with
  | nil => rfl
  | append_singleton es e ih =>
    have last : t.insertAllFor (es ++ [e]) =
        (t.insertAllFor es).insertFor e.1.1 e.1.2 e.2 := List.foldl_append
    rw [last, get?_insertFor, OrderedMap.ofList_append_singleton, OrderedMap.get?_insert, ih]
    by_cases same : (utility, name) = e.1
    · rw [if_pos same, if_pos same, Option.some_or]
    · rw [if_neg same, if_neg same]

/-- Before the fixed names of single utilities there are values for all utilities alone. -/
theorem withColors_eq (colors : OrderedMap String String) :
    withColors colors =
      (ValueTable.mk (colors.insertAll fixedValues) .empty).insertAllFor fixedValuesForOne := by
  have named : empty.forAll.insertAll colors.toList = colors := OrderedMap.insertAll_toList colors
  rw [withColors, insertAll_eq, insertAll_eq, named]
  rfl

end ValueTable

/-- The fixed value in the utility comes first, then the fixed value in all utilities, then the color. -/
theorem get?_withColors_eq (colors : OrderedMap String String) (utility name : String) :
    (ValueTable.withColors colors).get? utility name =
      ((OrderedMap.ofList fixedValuesForOne).get? (utility, name)).or
        (((OrderedMap.ofList fixedValues).get? name).or (colors.get? name)) := by
  rw [ValueTable.withColors_eq, ValueTable.get?_insertAllFor, ValueTable.get?, OrderedMap.get?_empty,
    Option.bind_none, Option.none_or, OrderedMap.get?_insertAll, OrderedMap.get?_ofList fixedValues]

theorem nodup_fixedValues : (fixedValues.map Prod.fst).Nodup := by decide +kernel

theorem nodup_fixedValuesForOne : (fixedValuesForOne.map Prod.fst).Nodup := by decide +kernel

theorem get?_fixedValues_eq_some_iff {name value : String} :
    (OrderedMap.ofList fixedValues).get? name = some value ↔ (name, value) ∈ fixedValues := by
  rw [OrderedMap.get?_eq_some_iff, OrderedMap.toList_ofList_of_distinct nodup_fixedValues]

theorem get?_fixedValuesForOne_eq_some_iff {utility name value : String} :
    (OrderedMap.ofList fixedValuesForOne).get? (utility, name) = some value ↔
      ((utility, name), value) ∈ fixedValuesForOne := by
  rw [OrderedMap.get?_eq_some_iff, OrderedMap.toList_ofList_of_distinct nodup_fixedValuesForOne]

/-- No fixed name ends in a zero. -/
theorem shadeName_notMem_fixedValues (color : String) (step : Step) :
    shadeName color step ∉ fixedValues.map Prod.fst := by
  have names : ∀ name ∈ fixedValues.map Prod.fst, name.toList.getLast? ≠ some '0' := by
    decide +kernel
  exact fun fixed => names _ fixed (getLast?_shadeName color step)

theorem shadeName_notMem_fixedValuesForOne (utility color : String) (step : Step) :
    (utility, shadeName color step) ∉ fixedValuesForOne.map Prod.fst := by
  have names : ∀ key ∈ fixedValuesForOne.map Prod.fst, key.2.toList.getLast? ≠ some '0' := by
    decide +kernel
  have zero := getLast?_shadeName color step
  exact fun fixed => names (utility, shadeName color step) fixed zero

/-- A shade has the value of its color in every utility. -/
theorem get?_withColors_shadeName (colors : OrderedMap String String) (utility color : String)
    (step : Step) :
    (ValueTable.withColors colors).get? utility (shadeName color step) =
      colors.get? (shadeName color step) := by
  rw [get?_withColors_eq,
    OrderedMap.get?_ofList_of_notMem (shadeName_notMem_fixedValuesForOne utility color step),
    OrderedMap.get?_ofList_of_notMem (shadeName_notMem_fixedValues color step), Option.none_or,
    Option.none_or]

/-- Colors that are named as shades take no place of a fixed name. -/
theorem size_withColors {colors : OrderedMap String String} {dark : Bool} {names : List String}
    (named : colors.keys = shadeNames "" dark names) :
    (ValueTable.withColors colors).size = fixedValues.length + colors.size := by
  have disjoint : ∀ name ∈ colors.keys, name ∉ fixedValues.map Prod.fst := by
    intro name hname fixed
    rw [named, shadeNames] at hname
    obtain ⟨color, -, inside⟩ := List.mem_flatMap.mp hname
    obtain ⟨step, -, rfl⟩ := List.mem_map.mp inside
    rw [String.empty_append] at fixed
    exact shadeName_notMem_fixedValues color step fixed
  have distinct : ((colors.toList ++ fixedValues).map Prod.fst).Nodup := by
    rw [List.map_append, List.nodup_append]
    refine ⟨colors.distinct, nodup_fixedValues, ?_⟩
    rintro name hname other hother rfl
    exact disjoint name hname hother
  rw [ValueTable.size, ValueTable.withColors_eq, ValueTable.forAll_insertAllFor, OrderedMap.size,
    OrderedMap.toList_insertAll_of_distinct colors distinct, List.length_append, Nat.add_comm]
  rfl

end UtilityCss.Preset
