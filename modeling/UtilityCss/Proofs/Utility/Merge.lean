import Mathlib.Data.List.Basic
import UtilityCss.Proofs.OrderedMap
import UtilityCss.Utility.Table

/-!
# What a merge keeps and reports

Merging registers the entries of all tables one after another. The last entry of each utility stays, with
the name of its table. Each entry that is not the first of its utility is reported when it comes, together
with the table of the entry that it replaces, which is the one before it for this utility. Tables may list
a utility more than once, and several tables may have one name.
-/
namespace UtilityCss.Utility.PropertyTable

/-- The entries of all tables in turn, each with the name of its table. -/
def ownedEntries (tables : List NamedTable) : List (String × Owned) :=
  tables.flatMap fun table => table.entries.map fun (utility, entry) => (utility, ⟨entry, table.name⟩)

/-! ## The last entry of a utility -/

/-- The entry is listed for the utility, and no later one is. -/
def IsLast (entries : List (String × Owned)) (utility : String) (owned : Owned) : Prop :=
  ∃ before after, entries = before ++ (utility, owned) :: after ∧ utility ∉ after.map Prod.fst

/-- The last entry that is listed for the utility. -/
def lastOf? (entries : List (String × Owned)) (utility : String) : Option Owned :=
  entries.reverse.lookup utility

theorem lastOf?_eq_some_iff {entries : List (String × Owned)} {utility : String} {owned : Owned} :
    lastOf? entries utility = some owned ↔ IsLast entries utility owned :=
  OrderedMap.lookup_reverse_eq_some_iff

theorem lastOf?_eq_none_iff {entries : List (String × Owned)} {utility : String} :
    lastOf? entries utility = none ↔ utility ∉ entries.map Prod.fst :=
  OrderedMap.lookup_reverse_eq_none_iff

/-! ## Reports -/

/-- Says which table's entry replaces which table's entry. -/
def overrideMessage (utility previous owner : String) : Message :=
  ⟨.debug, "[TABLE] '" ++ utility ++ "' from table '" ++ previous ++ "' overridden by table '" ++
    owner ++ "'"⟩

/-- What is said about an entry that comes after others: nothing, unless one of them is for its utility;
then the last of these is what it replaces. -/
def report? (before : List (String × Owned)) (item : String × Owned) : Option Message :=
  (lastOf? before item.1).map fun previous =>
    overrideMessage item.1 previous.owner item.2.owner

/-- What is said about all entries, each after those that stand before it. -/
def reports (entries : List (String × Owned)) : List Message :=
  (List.range entries.length).filterMap fun i => entries[i]?.bind (report? (entries.take i))

theorem reports_concat (entries : List (String × Owned)) (item : String × Owned) :
    reports (entries ++ [item]) = reports entries ++ (report? entries item).toList := by
  have earlier : (List.range entries.length).filterMap
        (fun i => (entries ++ [item])[i]?.bind (report? ((entries ++ [item]).take i))) =
      reports entries := by
    refine List.filterMap_congr fun i hi => ?_
    have inside : i < entries.length := List.mem_range.mp hi
    rw [List.getElem?_append_left inside, List.take_append_of_le_length (Nat.le_of_lt inside)]
  rw [reports, List.length_append, List.length_singleton, List.range_succ, List.filterMap_append,
    earlier]
  cases said : report? entries item <;> simp [said]

/-! ## Steps and runs of a merge -/

/-- Registers an entry for the table that it comes from. -/
def registerOwned (merged : PropertyTable × List Message) (item : String × Owned) :
    PropertyTable × List Message :=
  register item.2.owner merged (item.1, item.2.entry)

/-- The table holds what was registered, and the messages report what was replaced. -/
structure Records (entries : List (String × Owned)) (merged : PropertyTable × List Message) :
    Prop where
  table : merged.1 = .ofList entries
  messages : merged.2 = reports entries

variable {entries : List (String × Owned)} {merged : PropertyTable × List Message}

theorem Records.get? (h : Records entries merged) (utility : String) :
    merged.1.get? utility = lastOf? entries utility := by
  rw [h.table, OrderedMap.get?_ofList, lastOf?]

theorem records_nil : Records [] (.empty, []) where
  table := rfl
  messages := rfl

/-- One more entry is registered. -/
theorem Records.step (h : Records entries merged) (item : String × Owned) :
    Records (entries ++ [item]) (registerOwned merged item) where
  table := by
    rw [OrderedMap.ofList, OrderedMap.insertAll_append, ← OrderedMap.ofList, ← h.table]
    rfl
  messages := by
    rw [reports_concat, ← h.messages, registerOwned, register, report?, ← h.get?]
    dsimp only
    cases merged.1.get? item.1 with
    | none => rfl
    | some previous => rfl

/-- A list of entries is registered. -/
theorem Records.run (h : Records entries merged) (items : List (String × Owned)) :
    Records (entries ++ items) (items.foldl registerOwned merged) := by
  induction items generalizing entries merged with
  | nil => simpa using h
  | cons item rest ih =>
    have grown := ih (h.step item)
    rwa [List.append_assoc, List.singleton_append] at grown

/-- Going through the tables is going through all their entries. -/
theorem foldl_tables (tables : List NamedTable) (merged : PropertyTable × List Message) :
    tables.foldl (fun m t => t.entries.foldl (register t.name) m) merged =
      (ownedEntries tables).foldl registerOwned merged := by
  induction tables generalizing merged with
  | nil => rfl
  | cons table rest ih =>
    have first : table.entries.foldl (register table.name) merged =
        (table.entries.map fun (utility, entry) => (utility, Owned.mk entry table.name)).foldl
          registerOwned merged := by
      rw [List.foldl_map]
      rfl
    rw [List.foldl_cons, ih, first, ← List.foldl_append]
    rfl

theorem records_tables (tables : List NamedTable) :
    Records (ownedEntries tables)
      (tables.foldl (fun m t => t.entries.foldl (register t.name) m) (.empty, [])) := by
  rw [foldl_tables]
  exact records_nil.run (ownedEntries tables)

/-! ## The merged table -/

/-- The merged table holds the entries of all tables. -/
theorem merge_fst (tables : List NamedTable) :
    (merge tables).1 = OrderedMap.ofList (ownedEntries tables) :=
  (records_tables tables).table

/-- The last entry that a table lists for a utility counts. -/
theorem get?_merge (tables : List NamedTable) (utility : String) :
    (merge tables).1.get? utility = lastOf? (ownedEntries tables) utility :=
  (records_tables tables).get? utility

theorem entry?_merge (tables : List NamedTable) (utility : String) :
    entry? (merge tables).1 utility =
      (lastOf? (ownedEntries tables) utility).map Owned.entry := by
  unfold entry?
  rw [get?_merge]

theorem source?_merge (tables : List NamedTable) (utility : String) :
    source? (merge tables).1 utility =
      (lastOf? (ownedEntries tables) utility).map Owned.owner := by
  unfold source?
  rw [get?_merge]

/-- The messages of a merge: the reports, and then the size of the table. -/
theorem merge_snd (tables : List NamedTable) :
    (merge tables).2 = reports (ownedEntries tables) ++
      [⟨.debug, "[TABLE] merged " ++ toString (merge tables).1.size ++ " utilities"⟩] := by
  rw [← (records_tables tables).messages]
  rfl

/-- An entry that is found is listed in one of the tables. -/
theorem exists_table_of_found {tables : List NamedTable} {utility : String} {e : Entry}
    (found : entry? (merge tables).1 utility = some e) :
    ∃ table ∈ tables, (utility, e) ∈ table.entries := by
  rw [entry?_merge, Option.map_eq_some_iff] at found
  obtain ⟨owned, listed, rfl⟩ := found
  obtain ⟨before, after, split, -⟩ := lastOf?_eq_some_iff.mp listed
  have inside : (utility, owned) ∈ ownedEntries tables := by
    rw [split]
    simp
  obtain ⟨table, htable, inside⟩ := List.mem_flatMap.mp inside
  obtain ⟨item, hitem, same⟩ := List.mem_map.mp inside
  cases same
  exact ⟨table, htable, hitem⟩

/-! ## The sorted listing -/

/-- The listing has no utility twice and is sorted. -/
theorem pairwise_utilities (table : PropertyTable) : table.utilities.Pairwise (· < ·) := by
  have distinct : table.utilities.Nodup :=
    (List.mergeSort_perm _ _).nodup_iff.mpr table.nodup_keys
  have sorted : table.utilities.Pairwise fun a b => decide (a ≤ b) = true := by
    refine List.pairwise_mergeSort ?_ ?_ table.keys
    · intro a b c ab bc
      exact decide_eq_true (String.le_trans (of_decide_eq_true ab) (of_decide_eq_true bc))
    · intro a b
      simpa using String.le_total a b
  refine sorted.imp₂ ?_ distinct
  intro a b ordered differ
  have ordered : a ≤ b := of_decide_eq_true ordered
  exact String.not_le.mp fun reverse => differ (String.le_antisymm ordered reverse)

theorem mem_utilities {table : PropertyTable} {utility : String} :
    utility ∈ table.utilities ↔ utility ∈ table.keys :=
  (List.mergeSort_perm _ _).mem_iff

theorem length_utilities (table : PropertyTable) : table.utilities.length = table.size := by
  rw [utilities, (List.mergeSort_perm _ _).length_eq, OrderedMap.keys, List.length_map,
    OrderedMap.size]

theorem mem_keys_merge (tables : List NamedTable) (utility : String) :
    utility ∈ (merge tables).1.keys ↔ utility ∈ (ownedEntries tables).map Prod.fst := by
  rw [merge_fst, OrderedMap.ofList, OrderedMap.mem_keys_insertAll]
  exact or_iff_right List.not_mem_nil

/-- A merge of tables, in any number and with any repetitions, keeps for every utility the last entry that
is listed for it and the name of that entry's table. It lists the utilities sorted and each once, counts
them, and reports every entry that is not the first of its utility, in turn, with the table of the entry
that comes before it for this utility, and then the count. -/
theorem merge_keeps_last_entries (tables : List NamedTable) :
    (∀ utility owned, IsLast (ownedEntries tables) utility owned →
      entry? (merge tables).1 utility = some owned.entry ∧
        source? (merge tables).1 utility = some owned.owner) ∧
    (∀ utility, utility ∉ (ownedEntries tables).map Prod.fst →
      entry? (merge tables).1 utility = none ∧ source? (merge tables).1 utility = none) ∧
    (merge tables).1.utilities.Pairwise (· < ·) ∧
    (∀ utility, utility ∈ (merge tables).1.utilities ↔
      utility ∈ (ownedEntries tables).map Prod.fst) ∧
    (merge tables).1.size = (merge tables).1.utilities.length ∧
    (merge tables).2 = reports (ownedEntries tables) ++
      [⟨.debug, "[TABLE] merged " ++ toString (merge tables).1.size ++ " utilities"⟩] := by
  refine ⟨?last, ?none, pairwise_utilities _, ?names, (length_utilities _).symm, merge_snd tables⟩
  case last =>
    intro utility owned last
    rw [entry?_merge, source?_merge, lastOf?_eq_some_iff.mpr last]
    exact ⟨rfl, rfl⟩
  case none =>
    intro utility unlisted
    rw [entry?_merge, source?_merge, lastOf?_eq_none_iff.mpr unlisted]
    exact ⟨rfl, rfl⟩
  case names =>
    intro utility
    rw [mem_utilities, mem_keys_merge]

end UtilityCss.Utility.PropertyTable
