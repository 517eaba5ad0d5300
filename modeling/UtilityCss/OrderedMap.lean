/-!
# Maps that keep the order of their keys

A key stays where it was first inserted, and a later value replaces the earlier one in place. That the
keys are distinct is part of the type, so a listing is never ambiguous. Look-up is linear; no bound on
time is claimed.
-/
namespace UtilityCss

/-- Entries with distinct keys, in the order of their first insertion. -/
structure OrderedMap (κ β : Type) where
  toList : List (κ × β)
  distinct : (toList.map Prod.fst).Nodup

namespace OrderedMap

variable {κ β : Type} [DecidableEq κ]

/-- Replaces the value of a key in place, or adds the entry at the end. -/
def put (k : κ) (v : β) : List (κ × β) → List (κ × β)
  | [] => [(k, v)]
  | (a, b) :: r => if a = k then (k, v) :: r else (a, b) :: put k v r

theorem map_fst_put (k : κ) (v : β) (xs : List (κ × β)) :
    (put k v xs).map Prod.fst =
      if k ∈ xs.map Prod.fst then xs.map Prod.fst else xs.map Prod.fst ++ [k] := by
  induction xs with
  | nil => simp [put]
  | cons e r ih =>
    obtain ⟨a, b⟩ := e
    by_cases h : a = k
    · simp [put, h]
    · simp only [put, h, if_false, List.map_cons, ih, List.mem_cons, Ne.symm h, false_or]
      split <;> simp

theorem nodup_put (k : κ) (v : β) {xs : List (κ × β)} (h : (xs.map Prod.fst).Nodup) :
    ((put k v xs).map Prod.fst).Nodup := by
  rw [map_fst_put]
  split
  · exact h
  · next hk => exact List.nodup_append.mpr ⟨h, by simp, by
      intro a ha b hb hab
      rw [List.mem_singleton] at hb
      exact hk (hb ▸ hab ▸ ha)⟩

def empty : OrderedMap κ β := ⟨[], List.nodup_nil⟩

instance : Inhabited (OrderedMap κ β) := ⟨empty⟩

def insert (m : OrderedMap κ β) (k : κ) (v : β) : OrderedMap κ β :=
  ⟨put k v m.toList, nodup_put k v m.distinct⟩

def get? (m : OrderedMap κ β) (k : κ) : Option β := m.toList.lookup k

def keys (m : OrderedMap κ β) : List κ := m.toList.map Prod.fst

def size (m : OrderedMap κ β) : Nat := m.toList.length

def isEmpty (m : OrderedMap κ β) : Bool := m.toList.isEmpty

/-- Inserts entries in turn. -/
def insertAll (m : OrderedMap κ β) (entries : List (κ × β)) : OrderedMap κ β :=
  entries.foldl (fun m e => m.insert e.1 e.2) m

def ofList (entries : List (κ × β)) : OrderedMap κ β := empty.insertAll entries

/-- The entries of both maps; where a key is in both, the value of the second. -/
def merged (a b : OrderedMap κ β) : OrderedMap κ β := a.insertAll b.toList

omit [DecidableEq κ] in
@[simp] theorem toList_empty : (empty : OrderedMap κ β).toList = [] := rfl

@[simp] theorem toList_insert (m : OrderedMap κ β) (k : κ) (v : β) :
    (m.insert k v).toList = put k v m.toList := rfl

theorem keys_insert (m : OrderedMap κ β) (k : κ) (v : β) :
    (m.insert k v).keys = if k ∈ m.keys then m.keys else m.keys ++ [k] :=
  map_fst_put k v m.toList

omit [DecidableEq κ] in
theorem nodup_keys (m : OrderedMap κ β) : m.keys.Nodup := m.distinct

theorem lookup_put (k a : κ) (v : β) (xs : List (κ × β)) :
    (put k v xs).lookup a = if a = k then some v else xs.lookup a := by
  induction xs with
  | nil =>
    by_cases h : a = k
    · simp [put, h]
    · simp [put, List.lookup_cons, beq_eq_false_iff_ne.mpr h, h]
  | cons e r ih =>
    obtain ⟨b, w⟩ := e
    by_cases hb : b = k
    · subst hb
      by_cases h : a = b
      · simp [put, h]
      · simp [put, List.lookup_cons, beq_eq_false_iff_ne.mpr h, h]
    · by_cases h : a = b
      · subst h; simp [put, hb]
      · simp [put, hb, List.lookup_cons, beq_eq_false_iff_ne.mpr h, ih]

/-- An insertion changes the value of its key alone. -/
theorem get?_insert (m : OrderedMap κ β) (k a : κ) (v : β) :
    (m.insert k v).get? a = if a = k then some v else m.get? a :=
  lookup_put k a v m.toList

@[simp] theorem get?_empty (a : κ) : (empty : OrderedMap κ β).get? a = none := rfl

example : (ofList [("b", 1), ("a", 2), ("b", 3)]).toList = [("b", 3), ("a", 2)] := by decide

end OrderedMap

end UtilityCss
