import UtilityCss.OrderedMap

/-!
# Named values

A name such as `full` stands for a value in all utilities, and a name such as `first` in one utility
alone. The meaning in one utility comes first. Names of colors are values for all utilities and give
way to the fixed names.
-/
namespace UtilityCss.Preset

/-- Values by name, for all utilities and for single ones. -/
structure ValueTable where
  forAll : OrderedMap String String := .empty
  forOne : OrderedMap String (OrderedMap String String) := .empty

/-- The fixed names in all utilities. -/
def fixedValues : List (String × String) :=
  [("px", "1px"), ("fr", "minmax(0, 1fr)"), ("full", "100%"), ("half", "50%"), ("vh", "100vh"),
   ("svh", "100svh"), ("lvh", "100lvh"), ("dvh", "100dvh"), ("vw", "100vw"), ("svw", "100svw"),
   ("lvw", "100lvw"), ("dvw", "100dvw"), ("min", "min-content"), ("max", "max-content"),
   ("fit", "fit-content")]

/-- The fixed names in one utility. -/
def fixedValuesForOne : List ((String × String) × String) :=
  [(("order", "first"), "calc(-infinity)"), (("order", "last"), "calc(infinity)"),
   (("order", "none"), "0"), (("grid-flow", "row-dense"), "row dense"),
   (("grid-flow", "col-dense"), "column dense")]

namespace ValueTable

def empty : ValueTable := {}

def insert (t : ValueTable) (name value : String) : ValueTable :=
  { t with forAll := t.forAll.insert name value }

def insertFor (t : ValueTable) (utility name value : String) : ValueTable :=
  let values := (t.forOne.get? utility).getD .empty
  { t with forOne := t.forOne.insert utility (values.insert name value) }

/-- What a name stands for in a utility. A utility with values of its own may have none for the name. -/
def get? (t : ValueTable) (utility name : String) : Option String :=
  ((t.forOne.get? utility).bind fun values => values.get? name).or (t.forAll.get? name)

/-- The number of names in all utilities. -/
def size (t : ValueTable) : Nat := t.forAll.size

def isEmpty (t : ValueTable) : Bool := t.forAll.isEmpty && t.forOne.isEmpty

/-- Inserts values for all utilities in turn. -/
def insertAll (t : ValueTable) (entries : List (String × String)) : ValueTable :=
  entries.foldl (fun t e => t.insert e.1 e.2) t

/-- Inserts values for single utilities in turn. -/
def insertAllFor (t : ValueTable) (entries : List ((String × String) × String)) : ValueTable :=
  entries.foldl (fun t e => t.insertFor e.1.1 e.1.2 e.2) t

/-- The fixed names over the names of colors. -/
def withColors (colors : OrderedMap String String) : ValueTable :=
  ((empty.insertAll colors.toList).insertAll fixedValues).insertAllFor fixedValuesForOne

theorem get?_insertFor (t : ValueTable) (utility name scope key value : String) :
    (t.insertFor scope key value).get? utility name =
      if (utility, name) = (scope, key) then some value else t.get? utility name := by
  by_cases sameScope : utility = scope
  · subst sameScope
    by_cases sameName : name = key
    · subst sameName
      simp [get?, insertFor, OrderedMap.get?_insert]
    · cases own : t.forOne.get? utility <;>
        simp [get?, insertFor, OrderedMap.get?_insert, sameName, own]
  · simp [get?, insertFor, OrderedMap.get?_insert, sameScope]

end ValueTable

example : ((ValueTable.withColors .empty).insert "none" "x").get? "order" "none" = some "0" := by
  decide +kernel

example : (ValueTable.withColors (.ofList [("full", "x")])).get? "w" "full" = some "100%" := by
  decide +kernel

end UtilityCss.Preset
