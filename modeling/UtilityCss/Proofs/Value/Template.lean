import Mathlib.Data.List.Infix
import UtilityCss.Value.Template

/-!
# How much of a value a filled template shows

Every place of a template takes the whole value in, and nothing else comes in, so the length of the
result counts the places. A template without a place stays as it is; one with a place tells apart a value
and a longer one.
-/
namespace UtilityCss.Value

/-- A place for the value. -/
def place : List Char := ['\x7b', '0', '\x7d']

/-- The value is put somewhere in the template. -/
def HasPlace (template : String) : Prop := place <:+: template.toList

/-- The number of places. -/
def places : List Char → Nat
  | '\x7b' :: '0' :: '\x7d' :: r => places r + 1
  | _ :: r => places r
  | [] => 0

theorem places_eq_zero_iff {cs : List Char} : places cs = 0 ↔ ¬ place <:+: cs := by
  fun_induction places cs with
  | case1 r _ =>
    have here : place <:+: place ++ r := (List.prefix_append place r).isInfix
    exact iff_of_false (Nat.succ_ne_zero _) fun absent => absent here
  | case2 c r other ih =>
    have noPrefix : ¬ place <+: c :: r := by
      rintro ⟨t, same⟩
      cases same
      exact other t rfl rfl
    rw [ih, List.infix_cons_iff, not_or]
    exact ⟨fun later => ⟨noPrefix, later⟩, And.right⟩
  | case3 => simp [place]

/-- Each place gives way to the value. -/
theorem length_fill (value cs : List Char) :
    (fill value cs).length + 3 * places cs = cs.length + places cs * value.length := by
  fun_induction fill value cs with
  | case1 r ih =>
    rw [places, List.length_append, Nat.add_mul, List.length_cons, List.length_cons,
      List.length_cons]
    omega
  | case2 c r other ih =>
    rw [places, List.length_cons, List.length_cons]
    · omega
    · exact other
  | case3 => simp [places]

theorem fill_of_places_eq_zero {cs : List Char} (unplaced : places cs = 0) (value : List Char) :
    fill value cs = cs := by
  fun_induction fill value cs with
  | case1 r ih => cases unplaced
  | case2 c r other ih =>
    rw [places] at unplaced
    · rw [ih unplaced]
    · exact other
  | case3 => rfl

/-- Filling brings in no character but those of the value. -/
theorem notMem_fill {c : Char} {value cs : List Char} (hv : c ∉ value) (hc : c ∉ cs) :
    c ∉ fill value cs := by
  fun_induction fill value cs with
  | case1 r ih =>
    simp only [List.mem_cons, not_or] at hc
    rw [List.mem_append, not_or]
    exact ⟨hv, ih hc.2.2.2⟩
  | case2 a r _ ih =>
    rw [List.mem_cons, not_or] at hc ⊢
    exact ⟨hc.1, ih hc.2⟩
  | case3 => exact hc

/-- A template with a place shows every character that is added to the value. -/
theorem substitute_append_eq_iff (template value more : String) :
    substitute template (value ++ more) = substitute template value ↔
      ¬ HasPlace template ∨ more = "" := by
  constructor
  · intro same
    have filled : fill (value.toList ++ more.toList) template.toList =
        fill value.toList template.toList := by
      simpa [substitute] using congrArg String.toList same
    have longer := length_fill (value.toList ++ more.toList) template.toList
    have shorter := length_fill value.toList template.toList
    rw [filled, List.length_append, Nat.mul_add] at longer
    have added : places template.toList * more.toList.length = 0 := by omega
    rcases Nat.mul_eq_zero.mp added with unplaced | empty
    · exact Or.inl (places_eq_zero_iff.mp unplaced)
    · exact Or.inr (by simpa using empty)
  · rintro (absent | rfl)
    · have unplaced := places_eq_zero_iff.mpr absent
      rw [substitute, substitute, fill_of_places_eq_zero unplaced, fill_of_places_eq_zero unplaced]
    · rw [String.append_empty]

end UtilityCss.Value
