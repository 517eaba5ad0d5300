import UtilityCss.OrderedMap
import UtilityCss.Utility.Declaration

/-!
# Static classes

A static class stands for fixed declarations, in the order in which they were added. Properties may be
given in capitals-and-small-letters form. The listing of classes is sorted by code points.
-/
namespace UtilityCss.Preset

open UtilityCss.Utility

/-- Declarations by class. -/
abbrev ClassTable := OrderedMap String (List Declaration)

/-- Classes with several properties. -/
def compoundClasses : List (String × List (String × String)) :=
  [("truncate", [("overflow", "hidden"), ("textOverflow", "ellipsis"), ("whiteSpace", "nowrap")]),
   ("outline-hidden", [("outline", "2px solid transparent"), ("outlineOffset", "2px")])]

/-- Properties with one class for each value. -/
def classesByProperty : List (String × List (String × String)) :=
  [("fontStyle", [("italic", "italic"), ("not-italic", "normal")]),
   ("textDecorationLine",
    [("underline", "underline"), ("overline", "overline"), ("line-through", "line-through"),
     ("no-underline", "none")]),
   ("textDecorationStyle",
    [("decoration-solid", "solid"), ("decoration-double", "double"), ("decoration-dotted", "dotted"),
     ("decoration-dashed", "dashed"), ("decoration-wavy", "wavy")]),
   ("textDecorationThickness",
    [("decoration-thickness-from-font", "from-font"), ("decoration-thickness-auto", "auto")]),
   ("textUnderlineOffset", [("underline-offset-auto", "auto")]),
   ("textTransform",
    [("uppercase", "uppercase"), ("lowercase", "lowercase"), ("capitalize", "capitalize"),
     ("normal-case", "none")]),
   ("display",
    ["inline", "block", "inline-block", "flow-root", "flex", "inline-flex", "grid", "inline-grid",
     "contents", "table", "inline-table", "table-caption", "table-cell", "table-column",
     "table-column-group", "table-footer-group", "table-header-group", "table-row-group",
     "table-row", "list-item"].map (fun v => (v, v)) ++ [("hidden", "none")]),
   ("position", ["static", "fixed", "absolute", "relative", "sticky"].map fun v => (v, v))]

namespace ClassTable

/-- Adds a declaration to a class. -/
def add (t : ClassTable) (name property value : String) : ClassTable :=
  t.insert name ((t.get? name).getD [] ++ [⟨toKebabCase property, value⟩])

/-- All built-in classes with their declarations in turn. -/
def builtinDeclarations : List (String × String × String) :=
  compoundClasses.flatMap (fun (name, ds) => ds.map fun (property, value) => (name, property, value))
    ++ classesByProperty.flatMap fun (property, cs) =>
      cs.map fun (name, value) => (name, property, value)

def builtin : ClassTable :=
  builtinDeclarations.foldl (fun t (name, property, value) => add t name property value) .empty

/-- The class as a style sheet writes it. -/
def toCss? (t : ClassTable) (name : String) : Option String :=
  (t.get? name).map renderDeclarations

/-- The classes in order of their code points. -/
def names (t : ClassTable) : List String := t.keys.mergeSort fun a b => decide (a ≤ b)

theorem get?_add (t : ClassTable) (name other property value : String) :
    (t.add name property value).get? other =
      if other = name then some ((t.get? name).getD [] ++ [⟨toKebabCase property, value⟩])
      else t.get? other :=
  OrderedMap.get?_insert ..

end ClassTable

example : ClassTable.builtin.size = 46 := by decide +kernel

example : ClassTable.builtin.toCss? "outline-hidden" =
    some "outline: 2px solid transparent; outline-offset: 2px" := by decide +kernel

end UtilityCss.Preset
