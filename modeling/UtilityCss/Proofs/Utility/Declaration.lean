import Mathlib.Data.List.Basic
import UtilityCss.Proofs.Text
import UtilityCss.Utility.Declaration

/-!
# Printed declarations are read back

A printed list is read back item by item: each declaration comes back with its value trimmed, except
for those with a blank value, which are dropped. So are lines of one declaration each. Colons in values
change nothing. The property has to be a name with nothing in it that ends an item or a name, and the
value may hold no semicolon.
-/
namespace UtilityCss.Utility

open UtilityCss.Text

/-- A declaration that is one item when printed, with its property in front of the first colon. -/
structure Declaration.Printable (d : Declaration) : Prop where
  named : d.property ≠ ""
  trimmed : Trimmed isCssBlank d.property.toList
  oneName : ':' ∉ d.property.toList
  oneItem : ';' ∉ d.text.toList

/-- What reading makes of a printed declaration: the value is trimmed, and must not be blank. -/
def Declaration.readBack? (d : Declaration) : Option Declaration :=
  let value := trim isCssBlank d.value.toList
  if value.isEmpty then none else some ⟨d.property, String.ofList value⟩

/-- A declaration is read back unless its value is blank. -/
theorem Declaration.readBack?_eq_none_iff {d : Declaration} :
    d.readBack? = none ↔ ∀ c ∈ d.value.toList, isCssBlank c = true := by
  rw [readBack?, ← trim_eq_nil_iff]
  simp

theorem Declaration.readBack?_eq_self {d : Declaration} (visible : d.value ≠ "")
    (trimmed : Trimmed isCssBlank d.value.toList) : d.readBack? = some d := by
  simp [readBack?, trim_eq_self trimmed, visible]

theorem toList_text (d : Declaration) :
    d.text.toList = d.property.toList ++ ':' :: ' ' :: d.value.toList := by
  simp [Declaration.text]

/-! ## One item -/

theorem splitColon?_append {p : List Char} (v : List Char) (h : ':' ∉ p) :
    splitColon? (p ++ ':' :: v) = some (p, v) := by
  induction p with
  | nil => rfl
  | cons c p ih =>
    rw [List.mem_cons, not_or] at h
    rw [List.cons_append, splitColon?, if_neg (Ne.symm h.1), ih h.2]
    rfl

/-- A blank in front of an item does not count. -/
theorem readItem?_cons_of_blank {c : Char} (blank : isCssBlank c = true) (item : List Char) :
    readItem? (c :: item) = readItem? item := by
  have noColon : c ≠ ':' := by
    rintro rfl
    exact absurd blank (by decide)
  unfold readItem?
  rw [splitColon?, if_neg noColon]
  cases splitColon? item with
  | none => rfl
  | some parts =>
    simp only [Option.map_some, trim_cons_of_blank blank]

theorem readItem?_text {d : Declaration} (h : d.Printable) :
    readItem? d.text.toList = d.readBack? := by
  have space : isCssBlank ' ' = true := by decide
  rw [readItem?, toList_text, splitColon?_append _ h.oneName]
  simp [trim_eq_self h.trimmed, trim_cons_of_blank space, Declaration.readBack?, h.named]

/-! ## A list of items -/

/-- A printed list comes back with trimmed values, without the declarations whose value is blank. -/
theorem parse_render {ds : List Declaration} (h : ∀ d ∈ ds, d.Printable) :
    parseDeclarations (renderDeclarations ds) = ds.filterMap Declaration.readBack? := by
  cases ds with
  | nil => rfl
  | cons d ds =>
    have oneItem : ∀ item ∈ d.text.toList :: ds.map (fun e => e.text.toList), ';' ∉ item := by
      intro item hitem
      rcases List.mem_cons.mp hitem with rfl | hitem
      · exact (h d List.mem_cons_self).oneItem
      · obtain ⟨e, he, rfl⟩ := List.mem_map.mp hitem
        exact (h e (List.mem_cons_of_mem d he)).oneItem
    have cut := @splitOn_intercalate_padded Char _ ';' ' ' (by decide) _ _ oneItem
    have items : (renderDeclarations (d :: ds)).toList.splitOn ';' =
        d.text.toList :: ds.map fun e => ' ' :: e.text.toList := by
      rw [List.map_map] at cut
      rw [renderDeclarations, String.toList_intercalate, List.map_map]
      exact cut
    have rest : ds.filterMap (readItem? ∘ fun e => ' ' :: e.text.toList) =
        ds.filterMap Declaration.readBack? := by
      refine List.filterMap_congr fun e he => ?_
      rw [Function.comp_apply, readItem?_cons_of_blank (by decide),
        readItem?_text (h e (List.mem_cons_of_mem d he))]
    rw [parseDeclarations, items, List.filterMap_cons, readItem?_text (h d List.mem_cons_self),
      List.filterMap_map, rest, List.filterMap_cons]

/-- Nothing is read back exactly when all values are blank. -/
theorem parse_render_eq_nil_iff {ds : List Declaration} (h : ∀ d ∈ ds, d.Printable) :
    parseDeclarations (renderDeclarations ds) = [] ↔
      ∀ d ∈ ds, ∀ c ∈ d.value.toList, isCssBlank c = true := by
  rw [parse_render h, List.filterMap_eq_nil_iff]
  simp only [Declaration.readBack?_eq_none_iff]

/-! ## Lines of items -/

/-- A blank in front of all items does not count. -/
theorem filterMap_readItem?_cons_of_blank {c : Char} (blank : isCssBlank c = true) (cs : List Char) :
    ((c :: cs).splitOn ';').filterMap readItem? = (cs.splitOn ';').filterMap readItem? := by
  have noEnd : c ≠ ';' := by
    rintro rfl
    exact absurd blank (by decide)
  obtain ⟨first, rest, cut⟩ := List.exists_cons_of_ne_nil (List.splitOn_ne_nil ';' cs)
  rw [List.splitOn_cons_eq_if_modifyHead, if_neg (by simpa using noEnd), cut, List.modifyHead_cons,
    List.filterMap_cons, List.filterMap_cons, readItem?_cons_of_blank blank]

/-- Lines of one declaration each, with a semicolon at the end, are read like a printed list. -/
theorem parse_lines {ds : List Declaration} (h : ∀ d ∈ ds, d.Printable) :
    parseDeclarations ("\n".intercalate (ds.map fun d => d.text ++ ";")) =
      ds.filterMap Declaration.readBack? := by
  induction ds with
  | nil => rfl
  | cons d rest ih =>
    have first : readItem? d.text.toList = d.readBack? := readItem?_text (h d List.mem_cons_self)
    have clean : ';' ∉ d.text.toList := (h d List.mem_cons_self).oneItem
    have others := ih fun e he => h e (List.mem_cons_of_mem d he)
    rw [List.filterMap_cons, ← others, parseDeclarations, parseDeclarations]
    cases rest with
    | nil =>
      have last : ("\n".intercalate ([d].map fun d => d.text ++ ";")).toList =
          d.text.toList ++ ';' :: [] := by simp
      rw [last, List.splitOn_append_cons_self_of_not_mem clean, List.filterMap_cons, first]
      rfl
    | cons e more =>
      have lines : ("\n".intercalate ((d :: e :: more).map fun d => d.text ++ ";")).toList =
          d.text.toList ++ ';' :: '\n' ::
            ("\n".intercalate ((e :: more).map fun d => d.text ++ ";")).toList := by
        simp
      rw [lines, List.splitOn_append_cons_self_of_not_mem clean, List.filterMap_cons, first,
        filterMap_readItem?_cons_of_blank (by decide)]

end UtilityCss.Utility
