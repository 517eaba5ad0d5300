import UtilityCss.Log
import UtilityCss.OrderedMap
import UtilityCss.Utility.Entry

/-!
# Tables of utilities

Named tables are merged in turn. A later entry for a utility replaces the earlier one and is reported;
the merged table knows which table an entry came from. The listing of utilities is sorted by code
points.
-/
namespace UtilityCss.Utility

/-- A named group of entries. -/
structure NamedTable where
  name : String
  entries : List (String × Entry)

/-- An entry with the name of its table. -/
structure Owned where
  entry : Entry
  owner : String

/-- The entries of all tables by utility. -/
abbrev PropertyTable := OrderedMap String Owned

namespace PropertyTable

/-- Adds an entry and reports the one that it replaces. -/
def register (owner : String) (merged : PropertyTable × List Message) (item : String × Entry) :
    PropertyTable × List Message :=
  let (utility, entry) := item
  let report := match merged.1.get? utility with
    | some previous =>
      [⟨.debug, "[TABLE] '" ++ utility ++ "' from table '" ++ previous.owner ++
        "' overridden by table '" ++ owner ++ "'"⟩]
    | none => []
  (merged.1.insert utility ⟨entry, owner⟩, merged.2 ++ report)

/-- Merges tables in turn and reports the size of the result. -/
def merge (tables : List NamedTable) : PropertyTable × List Message :=
  let merged := tables.foldl (fun m t => t.entries.foldl (register t.name) m) (OrderedMap.empty, [])
  (merged.1, merged.2 ++ [⟨.debug, "[TABLE] merged " ++ toString merged.1.size ++ " utilities"⟩])

def entry? (table : PropertyTable) (utility : String) : Option Entry :=
  (table.get? utility).map Owned.entry

/-- The name of the table that an entry came from. -/
def source? (table : PropertyTable) (utility : String) : Option String :=
  (table.get? utility).map Owned.owner

/-- The utilities in order of their code points. -/
def utilities (table : PropertyTable) : List String :=
  table.keys.mergeSort fun a b => decide (a ≤ b)

def resolve (table : PropertyTable) (utility : String) (t : Token) (context : Context) :
    Option Resolved :=
  match table.entry? utility with
  | some e => e.resolve t context
  | none => none

end PropertyTable

end UtilityCss.Utility
