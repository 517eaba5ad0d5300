import Mathlib.Data.List.Basic
import Mathlib.Data.List.Induction
import UtilityCss.OrderedMap

/-!
# What a series of insertions leaves

After a series of insertions a key has the value that was inserted for it last. Entries whose keys
are new and distinct are appended as they stand, so that such a series loses nothing. Look-up and
listing agree, because keys are distinct.
-/
namespace UtilityCss.OrderedMap

variable {κ β : Type} [DecidableEq κ]

theorem put_of_notMem (k : κ) (v : β) {xs : List (κ × β)} (new : k ∉ xs.map Prod.fst) :
    put k v xs = xs ++ [(k, v)] := by
  induction xs with
  | nil => rfl
  | cons e r ih =>
    obtain ⟨a, b⟩ := e
    rw [List.map_cons, List.mem_cons, not_or] at new
    rw [put, if_neg (Ne.symm new.1), ih new.2, List.cons_append]

/-- An old key keeps its place and takes the new value. -/
theorem put_of_mem (k : κ) (v : β) {xs : List (κ × β)} (old : k ∈ xs.map Prod.fst)
    (distinct : (xs.map Prod.fst).Nodup) :
    put k v xs = xs.map fun e => (e.1, if e.1 = k then v else e.2) := by
  induction xs with
  | nil => cases old
  | cons e r ih =>
    obtain ⟨a, b⟩ := e
    rw [List.map_cons, List.nodup_cons] at distinct
    by_cases same : a = k
    · subst same
      -- No other entry has the key, so the rest stays as it is.
      have rest : r.map (fun e => (e.1, if e.1 = a then v else e.2)) = r := by
        refine Eq.trans (List.map_congr_left fun e he => ?_) (List.map_id r)
        have other : e.1 ≠ a := fun again => distinct.1 (List.mem_map.mpr ⟨e, he, again⟩)
        rw [if_neg other, id]
      rw [put, if_pos rfl, List.map_cons, rest, if_pos rfl]
    · have later : k ∈ r.map Prod.fst := by
        rcases List.mem_cons.mp old with here | later
        · exact absurd here.symm same
        · exact later
      rw [put, if_neg same, ih later distinct.2, List.map_cons, if_neg same]

theorem insertAll_cons (m : OrderedMap κ β) (e : κ × β) (es : List (κ × β)) :
    m.insertAll (e :: es) = (m.insert e.1 e.2).insertAll es := rfl

theorem insertAll_append (m : OrderedMap κ β) (es fs : List (κ × β)) :
    m.insertAll (es ++ fs) = (m.insertAll es).insertAll fs :=
  List.foldl_append

/-- Entries with new and distinct keys are appended. -/
theorem toList_insertAll_of_distinct (m : OrderedMap κ β) {es : List (κ × β)}
    (distinct : ((m.toList ++ es).map Prod.fst).Nodup) :
    (m.insertAll es).toList = m.toList ++ es := by
  induction es generalizing m with
  | nil => simp [insertAll]
  | cons e r ih =>
    have new : e.1 ∉ m.toList.map Prod.fst := by
      intro old
      rw [List.map_append, List.nodup_append] at distinct
      exact distinct.2.2 e.1 old e.1 (by simp) rfl
    have grown : (m.insert e.1 e.2).toList = m.toList ++ [e] := put_of_notMem e.1 e.2 new
    have shifted : (m.insert e.1 e.2).toList ++ r = m.toList ++ e :: r := by
      rw [grown, List.append_assoc, List.singleton_append]
    rw [insertAll_cons, ih _ (by rw [shifted]; exact distinct), shifted]

theorem toList_ofList_of_distinct {es : List (κ × β)} (distinct : (es.map Prod.fst).Nodup) :
    (ofList es).toList = es :=
  toList_insertAll_of_distinct empty distinct

theorem lookup_eq_none_iff_notMem {es : List (κ × β)} {k : κ} :
    es.lookup k = none ↔ k ∉ es.map Prod.fst := by
  rw [List.lookup_eq_none_iff, List.mem_map]
  constructor
  · rintro fresh ⟨e, he, rfl⟩
    have other := fresh e he
    simp at other
  · intro fresh e he
    have other : k ≠ e.1 := by
      rintro rfl
      exact fresh ⟨e, he, rfl⟩
    simpa using other

/-- Inserting entries with distinct keys overrides old values in place and appends the entries with new
keys. -/
theorem toList_insertAll (m : OrderedMap κ β) {es : List (κ × β)}
    (distinct : (es.map Prod.fst).Nodup) :
    (m.insertAll es).toList =
      m.toList.map (fun e => (e.1, (es.lookup e.1).getD e.2)) ++
        es.filter (fun e => e.1 ∉ m.keys) := by
  induction es generalizing m with
  | nil => simp [insertAll]
  | cons e r ih =>
    obtain ⟨k, v⟩ := e
    rw [List.map_cons, List.nodup_cons] at distinct
    have single : r.lookup k = none := lookup_eq_none_iff_notMem.mpr distinct.1
    rw [insertAll_cons, ih _ distinct.2, keys_insert, toList_insert]
    by_cases old : k ∈ m.keys
    · have overridden (e : κ × β) :
          (e.1, (r.lookup e.1).getD (if e.1 = k then v else e.2)) =
            (e.1, (((k, v) :: r).lookup e.1).getD e.2) := by
        by_cases same : e.1 = k
        · simp [same, single]
        · simp [same, List.lookup_cons, beq_eq_false_iff_ne.mpr same]
      rw [put_of_mem k v old m.distinct, if_pos old, List.map_map, List.filter_cons_of_neg (by simpa)]
      exact congrArg (· ++ _) (List.map_congr_left fun e _ => overridden e)
    · have kept : m.toList.map (fun e => (e.1, (r.lookup e.1).getD e.2)) =
          m.toList.map fun e => (e.1, (((k, v) :: r).lookup e.1).getD e.2) := by
        refine List.map_congr_left fun e he => ?_
        have other : e.1 ≠ k := by
          intro same
          exact old (same ▸ List.mem_map.mpr ⟨e, he, rfl⟩)
        simp [List.lookup_cons, beq_eq_false_iff_ne.mpr other]
      have appended : r.filter (fun e => e.1 ∉ m.keys ++ [k]) = r.filter fun e => e.1 ∉ m.keys := by
        refine List.filter_congr fun e he => ?_
        have other : e.1 ≠ k := by
          intro same
          exact distinct.1 (same ▸ List.mem_map.mpr ⟨e, he, rfl⟩)
        simp [other]
      rw [put_of_notMem k v old, if_neg old, List.map_append, kept, appended,
        List.filter_cons_of_pos (by simpa)]
      simp [single]

/-- The entries of the first map in their order, with the values of the second where it has them, and
behind them the other entries of the second. -/
theorem toList_merged (a b : OrderedMap κ β) :
    (a.merged b).toList =
      a.toList.map (fun e => (e.1, (b.get? e.1).getD e.2)) ++
        b.toList.filter fun e => e.1 ∉ a.keys :=
  toList_insertAll a b.distinct

/-- The last value that was inserted for a key counts. -/
theorem get?_insertAll (m : OrderedMap κ β) (es : List (κ × β)) (a : κ) :
    (m.insertAll es).get? a = (es.reverse.lookup a).or (m.get? a) := by
  induction es generalizing m with
  | nil => simp [insertAll]
  | cons e r ih =>
    obtain ⟨k, v⟩ := e
    rw [insertAll_cons, ih, get?_insert, List.reverse_cons, List.lookup_append, Option.or_assoc]
    by_cases same : a = k
    · rw [if_pos same, List.lookup_cons, beq_iff_eq.mpr same]
      rfl
    · rw [if_neg same, List.lookup_cons, beq_eq_false_iff_ne.mpr same]
      rfl

theorem ofList_append_singleton (es : List (κ × β)) (e : κ × β) :
    ofList (es ++ [e]) = (ofList es).insert e.1 e.2 :=
  insertAll_append empty es [e]

theorem get?_ofList (es : List (κ × β)) (a : κ) :
    (ofList es).get? a = es.reverse.lookup a := by
  rw [ofList, get?_insertAll, get?_empty, Option.or_none]

/-! ## The last value of a key -/

/-- The value is listed for the key, and no later one is. -/
def IsLastValue (es : List (κ × β)) (k : κ) (v : β) : Prop :=
  ∃ before after, es = before ++ (k, v) :: after ∧ k ∉ after.map Prod.fst

theorem lookup_reverse_eq_some_iff {es : List (κ × β)} {k : κ} {v : β} :
    es.reverse.lookup k = some v ↔ IsLastValue es k v := by
  rw [List.lookup_eq_some_iff]
  simp only [← List.lookup_eq_none_iff, lookup_eq_none_iff_notMem]
  constructor
  · rintro ⟨after, before, split, fresh⟩
    refine ⟨before.reverse, after.reverse, ?_, by rwa [List.map_reverse, List.mem_reverse]⟩
    rw [← List.reverse_reverse es, split]
    simp
  · rintro ⟨before, after, rfl, fresh⟩
    exact ⟨after.reverse, before.reverse, by simp, by rwa [List.map_reverse, List.mem_reverse]⟩

theorem lookup_reverse_eq_none_iff {es : List (κ × β)} {k : κ} :
    es.reverse.lookup k = none ↔ k ∉ es.map Prod.fst := by
  rw [lookup_eq_none_iff_notMem, List.map_reverse, List.mem_reverse]

theorem get?_ofList_eq_some_iff {es : List (κ × β)} {k : κ} {v : β} :
    (ofList es).get? k = some v ↔ IsLastValue es k v := by
  rw [get?_ofList, lookup_reverse_eq_some_iff]

theorem get?_ofList_eq_none_iff {es : List (κ × β)} {k : κ} :
    (ofList es).get? k = none ↔ k ∉ es.map Prod.fst := by
  rw [get?_ofList, lookup_reverse_eq_none_iff]

/-- Insertions for other keys change nothing for a key. -/
theorem get?_insertAll_of_notMem (m : OrderedMap κ β) {es : List (κ × β)} {a : κ}
    (other : a ∉ es.map Prod.fst) : (m.insertAll es).get? a = m.get? a := by
  induction es generalizing m with
  | nil => rfl
  | cons e r ih =>
    rw [List.map_cons, List.mem_cons, not_or] at other
    rw [insertAll_cons, ih _ other.2, get?_insert, if_neg other.1]

theorem get?_ofList_of_notMem {es : List (κ × β)} {a : κ} (other : a ∉ es.map Prod.fst) :
    (ofList es).get? a = none :=
  get?_insertAll_of_notMem empty other

omit [DecidableEq κ] in
theorem eq_of_toList_eq {m m' : OrderedMap κ β} (same : m.toList = m'.toList) : m = m' := by
  cases m
  cases same
  rfl

/-- Inserting the entries of a map gives the map again. -/
theorem insertAll_toList (m : OrderedMap κ β) : empty.insertAll m.toList = m :=
  eq_of_toList_eq (toList_insertAll_of_distinct empty m.distinct)

theorem get?_ofList_of_distinct {es : List (κ × β)} (distinct : (es.map Prod.fst).Nodup) (k : κ) :
    (ofList es).get? k = es.lookup k := by
  rw [get?, toList_ofList_of_distinct distinct]

/-- Where a key is in both maps, the second map counts. -/
theorem get?_merged (a b : OrderedMap κ β) (k : κ) :
    (a.merged b).get? k = (b.get? k).or (a.get? k) := by
  have alone : b.toList.reverse.lookup k = b.get? k := by
    rw [← get?_ofList, ofList, insertAll_toList]
  rw [merged, get?_insertAll, alone]

/-- Keys are distinct, so each listed entry is the one that a look-up finds. -/
theorem get?_eq_some_iff (m : OrderedMap κ β) (k : κ) (v : β) :
    m.get? k = some v ↔ (k, v) ∈ m.toList := by
  obtain ⟨xs, distinct⟩ := m
  change xs.lookup k = some v ↔ (k, v) ∈ xs
  induction xs with
  | nil => simp
  | cons e r ih =>
    obtain ⟨a, b⟩ := e
    rw [List.map_cons, List.nodup_cons] at distinct
    by_cases same : k = a
    · subst same
      have absent : (k, v) ∉ r := fun found => distinct.1 (List.mem_map.mpr ⟨_, found, rfl⟩)
      simp [absent, eq_comm]
    · simp [List.lookup_cons, beq_eq_false_iff_ne.mpr same, same, ih distinct.2]

theorem mem_keys_insertAll (m : OrderedMap κ β) (es : List (κ × β)) (a : κ) :
    a ∈ (m.insertAll es).keys ↔ a ∈ m.keys ∨ a ∈ es.map Prod.fst := by
  induction es generalizing m with
  | nil => simp [insertAll]
  | cons e r ih =>
    rw [insertAll_cons, ih, keys_insert, List.map_cons, List.mem_cons]
    by_cases old : e.1 ∈ m.keys
    · rw [if_pos old]
      constructor
      · exact Or.imp_right Or.inr
      · rintro (found | rfl | found)
        · exact Or.inl found
        · exact Or.inl old
        · exact Or.inr found
    · rw [if_neg old, List.mem_append, List.mem_singleton, or_assoc]

theorem mem_keys_merged (a b : OrderedMap κ β) (k : κ) :
    k ∈ (a.merged b).keys ↔ k ∈ a.keys ∨ k ∈ b.keys :=
  mem_keys_insertAll a b.toList k

theorem keys_merged (a b : OrderedMap κ β) :
    (a.merged b).keys = a.keys ++ b.keys.filter fun k => k ∉ a.keys := by
  have kept : a.toList.map (Prod.fst ∘ fun e => (e.1, (b.get? e.1).getD e.2)) = a.keys := rfl
  have added : (b.toList.filter fun e => e.1 ∉ a.keys).map Prod.fst =
      b.keys.filter fun k => k ∉ a.keys := by
    rw [OrderedMap.keys.eq_def b, List.filter_map]
    rfl
  rw [OrderedMap.keys, toList_merged, List.map_append, List.map_map, kept, added]

/-- The keys stand in the order in which they came first. -/
theorem keys_ofList (es : List (κ × β)) : (ofList es).keys = (es.map Prod.fst).eraseDups := by
  induction es using List.reverseRecOn with
  | nil => rfl
  | append_singleton es e ih =>
    rw [ofList_append_singleton, keys_insert, ih, List.map_append, List.map_singleton, List.eraseDups_append]
    by_cases old : e.1 ∈ es.map Prod.fst
    · have nothing : [e.1].removeAll (es.map Prod.fst) = [] := by simp [List.removeAll, old]
      rw [if_pos (List.mem_eraseDups.mpr old), nothing]
      exact (List.append_nil _).symm
    · have new : [e.1].removeAll (es.map Prod.fst) = [e.1] := by simp [List.removeAll, old]
      rw [if_neg fun again => old (List.mem_eraseDups.mp again), new]
      rfl

/-- Inserting more entries is making the map of all of them. -/
theorem insertAll_ofList (es fs : List (κ × β)) : (ofList es).insertAll fs = ofList (es ++ fs) :=
  (insertAll_append empty es fs).symm

/-! ## Maps with the same keys and values -/

/-- The listing says no more than the keys and what is found under them. -/
theorem toList_eq_filterMap_keys (m : OrderedMap κ β) :
    m.toList = m.keys.filterMap fun k => (m.get? k).map (Prod.mk k) := by
  have found : ∀ e ∈ m.toList, (m.get? e.1).map (Prod.mk e.1) = some e := by
    intro e he
    rw [(get?_eq_some_iff m e.1 e.2).mpr he, Option.map_some]
  rw [keys, List.filterMap_map]
  exact ((List.filterMap_congr found).trans (List.filterMap_some)).symm

theorem eq_of_keys_of_get? {m m' : OrderedMap κ β} (keys : m.keys = m'.keys)
    (values : ∀ k, m.get? k = m'.get? k) : m = m' := by
  refine eq_of_toList_eq ?_
  rw [toList_eq_filterMap_keys m, toList_eq_filterMap_keys m', keys]
  simp only [values]

/-- Maps with the same look-ups have the same keys, in whatever order. -/
theorem size_eq_of_get? {m m' : OrderedMap κ β} (values : ∀ k, m.get? k = m'.get? k) :
    m.size = m'.size := by
  have sameKeys : m.keys.Perm m'.keys := by
    rw [List.perm_ext_iff_of_nodup m.nodup_keys m'.nodup_keys]
    intro k
    rw [← not_iff_not, keys, keys, ← lookup_eq_none_iff_notMem, ← lookup_eq_none_iff_notMem]
    exact Eq.congr_left (values k)
  have sameLength := sameKeys.length_eq
  rwa [keys, keys, List.length_map, List.length_map] at sameLength

theorem isEmpty_iff {m : OrderedMap κ β} : m.isEmpty = true ↔ ∀ k, m.get? k = none := by
  rw [isEmpty, List.isEmpty_iff]
  constructor
  · intro bare k
    rw [get?, bare, List.lookup_nil]
  · intro nothing
    refine List.eq_nil_iff_forall_not_mem.mpr fun e listed => ?_
    have found := (get?_eq_some_iff m e.1 e.2).mpr listed
    rw [nothing] at found
    cases found

/-- An insertion into the second map is an insertion into both. -/
theorem merged_insert (a b : OrderedMap κ β) (k : κ) (v : β) :
    a.merged (b.insert k v) = (a.merged b).insert k v := by
  refine eq_of_keys_of_get? ?keys fun other => ?values
  case keys =>
    rw [keys_insert, keys_merged, keys_merged, keys_insert]
    by_cases second : k ∈ b.keys <;> by_cases first : k ∈ a.keys <;> simp [second, first]
  case values =>
    rw [get?_merged, get?_insert, get?_insert, get?_merged]
    by_cases same : other = k
    · rw [if_pos same, if_pos same, Option.some_or]
    · rw [if_neg same, if_neg same]

/-! ## Laws of merging -/

theorem merged_empty (a : OrderedMap κ β) : a.merged empty = a := rfl

theorem empty_merged (a : OrderedMap κ β) : empty.merged a = a := insertAll_toList a

/-- Of three maps the last that has a key counts, and the first that has it gives the place. -/
theorem merged_assoc (a b c : OrderedMap κ β) : (a.merged b).merged c = a.merged (b.merged c) := by
  refine eq_of_keys_of_get? ?keys fun k => ?values
  case keys =>
    simp only [keys_merged, List.filter_append, List.append_assoc, List.filter_filter,
      List.mem_append, List.mem_filter]
    congr 2
    refine List.filter_congr fun k _ => ?_
    by_cases first : k ∈ a.keys <;> by_cases second : k ∈ b.keys <;> simp [first, second]
  case values =>
    rw [get?_merged, get?_merged, get?_merged, get?_merged, Option.or_assoc]

theorem merged_self (a : OrderedMap κ β) : a.merged a = a := by
  refine eq_of_keys_of_get? ?keys fun k => ?values
  case keys =>
    have nothing : (a.keys.filter fun k => k ∉ a.keys) = [] := by simp
    rw [keys_merged, nothing, List.append_nil]
  case values =>
    rw [get?_merged, Option.or_self]

/-- A second merge with one map changes nothing. -/
theorem merged_merged_self (a b : OrderedMap κ β) : (a.merged b).merged b = a.merged b := by
  rw [merged_assoc, merged_self]

/-- Merging with what a series of insertions leaves is making these insertions. -/
theorem merged_ofList (a : OrderedMap κ β) (es : List (κ × β)) :
    a.merged (ofList es) = a.insertAll es := by
  induction es using List.reverseRecOn with
  | nil => rfl
  | append_singleton es e ih =>
    rw [ofList_append_singleton, merged_insert, ih, insertAll_append]
    rfl

/-- What holds of all entries and of a new one holds of all entries after its insertion. -/
theorem forall_mem_insert {P : κ × β → Prop} {m : OrderedMap κ β} {k : κ} {v : β}
    (old : ∀ e ∈ m.toList, P e) (new : P (k, v)) : ∀ e ∈ (m.insert k v).toList, P e := by
  intro e he
  have found := (get?_eq_some_iff _ e.1 e.2).mpr he
  rw [get?_insert] at found
  by_cases same : e.1 = k
  · rw [if_pos same] at found
    obtain ⟨a, b⟩ := e
    cases same
    cases found
    exact new
  · rw [if_neg same] at found
    exact old e ((get?_eq_some_iff m e.1 e.2).mp found)

end UtilityCss.OrderedMap
