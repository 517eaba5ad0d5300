import UtilityCss.Utility.Declaration
import UtilityCss.Utility.Token
import UtilityCss.Value.Template

/-!
# Entries of utilities

An entry says what a utility declares. Most utilities give one value to one or more properties; the
others list their declarations themselves, which are then held as text. A token that leaves no value
resolves to nothing.
-/
namespace UtilityCss.Utility

open UtilityCss.Value

/-- Named values, of which the first with a name counts. -/
abbrev Aliases := List (String × String)

/-- Which properties a token sets, by their names in capitals-and-small-letters form. -/
inductive PropertySpec where
  | fixed (names : List String)
  | directional (base : List String) (keys : List (String × List String))
  | keyed (pick : Token → Context → List String)

/-- The properties of a token; a key that is not listed stands for the base. -/
def PropertySpec.names (p : PropertySpec) (t : Token) (context : Context) : List String :=
  match p with
  | .fixed names => names
  | .directional base keys => (keys.lookup t.key).getD base
  | .keyed pick => pick t context

/-- A filter that is applied to the value of a token. -/
structure FilterFunction where
  name : String
  /-- Stands for a unit that is absent. -/
  defaultUnit : String
  /-- The filter has its full effect when no value is given. -/
  fullWhenEmpty : Bool := false

def FilterFunction.apply (f : FilterFunction) (t : Token) : Option String :=
  if t.value.isEmpty then
    if f.fullWhenEmpty then some (f.name ++ "(100%)") else none
  else
    some (f.name ++ "(" ++ t.value ++ (if t.unit.isEmpty then f.defaultUnit else t.unit) ++ ")")

/-- How a value is made from a token. -/
inductive ValueSpec where
  /-- The value with its unit. -/
  | raw
  /-- A number fills the template; anything else stands for itself. -/
  | template (pattern : String)
  /-- A name from one of the tables, else a length on the spacing scale. -/
  | sizing (tables : List Aliases)
  /-- A name, else the value with its unit. -/
  | alias (aliases : Aliases)
  | filter (function : FilterFunction)
  | computed (value : Token → Context → Option String)

/-- A text, unless it is empty. -/
def nonEmpty? (text : String) : Option String := if text.isEmpty then none else some text

def ValueSpec.value? (v : ValueSpec) (t : Token) (context : Context) : Option String :=
  match v with
  | .raw => nonEmpty? t.joined
  | .template pattern =>
    if isNumber t.value then some (substitute pattern t.value) else nonEmpty? t.joined
  | .sizing tables =>
    (tables.findSome? (List.lookup t.joined)).or
      (nonEmpty? (scaleSizing t.value t.unit context.sizing))
  | .alias aliases => (aliases.lookup t.value).or (nonEmpty? t.joined)
  | .filter function => function.apply t
  | .computed value => value t context

/-- What a utility does with a token. -/
inductive Entry where
  | declare (property : PropertySpec) (value : ValueSpec)
  | compute (declarations : Token → Context → Option (List Declaration))

/-- An entry for one property. -/
def Entry.property (name : String) (value : ValueSpec := .raw) : Entry :=
  .declare (.fixed [name]) value

/-- What a token resolves to. -/
inductive Resolved where
  | properties (names : List String) (value : String)
  | text (content : String)
  deriving DecidableEq, Repr

def Entry.resolve (e : Entry) (t : Token) (context : Context) : Option Resolved :=
  match e with
  | .declare property value =>
    (value.value? t context).map fun v => .properties (property.names t context) v
  | .compute declarations =>
    (declarations t context).map fun ds => .text (renderDeclarations ds)

/-- The declarations with the style sheet's names of properties. -/
def Resolved.declarations : Resolved → List Declaration
  | .properties names value => names.map fun name => ⟨toKebabCase name, value⟩
  | .text content => parseDeclarations content

/-- The declarations as they stand in a style sheet. -/
def Resolved.toCss (r : Resolved) : String := renderDeclarations r.declarations

end UtilityCss.Utility
