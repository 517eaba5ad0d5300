import UtilityCss.Proofs.Utility.Merge
import UtilityCss.Utility.Builtin

/-!
# Look-up in tables

A utility resolves as the entry that the table holds for it. The built-in table holds the last entry that
the built-in tables list.
-/
namespace UtilityCss.Utility

namespace PropertyTable

variable {table : PropertyTable} {utility : String} {t : Token} {context : Context}

/-- A utility that is known resolves as its entry does. -/
theorem resolve_of_found {e : Entry} (found : table.entry? utility = some e) :
    table.resolve utility t context = e.resolve t context := by
  rw [resolve, found]

theorem resolve_eq_some_iff {r : Resolved} :
    table.resolve utility t context = some r ↔
      ∃ e, table.entry? utility = some e ∧ e.resolve t context = some r := by
  rw [resolve]
  cases table.entry? utility with
  | none => simp
  | some e => simp

end PropertyTable

/-- A built-in utility has the last entry that the tables list for it. -/
theorem entry?_builtinTable (utility : String) :
    builtinTable.entry? utility =
      (PropertyTable.lastOf? (PropertyTable.ownedEntries builtinTables) utility).map Owned.entry :=
  PropertyTable.entry?_merge builtinTables utility

/-- What holds of every entry that the built-in tables list holds of the entry of every utility. -/
theorem holds_of_found (P : String → Entry → Prop)
    (all : ∀ table ∈ builtinTables, ∀ item ∈ table.entries, P item.1 item.2) {utility : String}
    {e : Entry} (found : builtinTable.entry? utility = some e) : P utility e := by
  obtain ⟨table, htable, inside⟩ := PropertyTable.exists_table_of_found found
  exact all table htable (utility, e) inside

end UtilityCss.Utility
