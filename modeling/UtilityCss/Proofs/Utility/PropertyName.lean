import UtilityCss.Proofs.Text
import UtilityCss.Utility.Declaration

/-!
# Hyphenated property names

Hyphenating leaves no capital, so a second time it changes nothing. The capitals can be put back exactly if no
hyphen of the name looks like one that stands for a capital. So different names without hyphens stay different,
wherever their capitals are.
-/
namespace UtilityCss.Utility

open UtilityCss.Text

variable {c : Char} {cs r : List Char}

/-! ## No capital is left -/

theorem hyphenate_of_isUpper (capital : isUpper c = true) :
    hyphenate (c :: r) = '-' :: lowerChar c :: hyphenate r := by
  rw [hyphenate, if_pos capital]

theorem hyphenate_of_not_isUpper (noCapital : ¬ isUpper c = true) :
    hyphenate (c :: r) = c :: hyphenate r := by
  rw [hyphenate, if_neg noCapital]

theorem not_isUpper_of_mem_hyphenate (inside : c ∈ hyphenate cs) : isUpper c = false := by
  induction cs with
  | nil => cases inside
  | cons a r ih =>
    by_cases capital : isUpper a = true
    · rw [hyphenate_of_isUpper capital, List.mem_cons, List.mem_cons] at inside
      rcases inside with rfl | rfl | later
      · rfl
      · exact isUpper_lowerChar a
      · exact ih later
    · rw [hyphenate_of_not_isUpper capital, List.mem_cons] at inside
      rcases inside with rfl | later
      · exact Bool.eq_false_iff.mpr capital
      · exact ih later

/-- A name is left as it is exactly if it has no capital. -/
theorem hyphenate_eq_self_iff : hyphenate cs = cs ↔ ∀ c ∈ cs, isUpper c = false := by
  constructor
  · intro same c inside
    rw [← same] at inside
    exact not_isUpper_of_mem_hyphenate inside
  · exact hyphenate_eq_self

theorem toKebabCase_eq_self_iff {p : String} :
    toKebabCase p = p ↔ ∀ c ∈ p.toList, isUpper c = false := by
  rw [← hyphenate_eq_self_iff, toKebabCase, ← String.toList_inj, String.toList_ofList]

theorem toKebabCase_toKebabCase (p : String) : toKebabCase (toKebabCase p) = toKebabCase p := by
  rw [toKebabCase_eq_self_iff, toKebabCase, String.toList_ofList]
  exact fun _ => not_isUpper_of_mem_hyphenate

/-! ## Capitals are put back -/

/-- Turns each hyphen with a small letter behind it into the capital of the letter. -/
def dehyphenate : List Char → List Char
  | '-' :: c :: r => if isLower c then upperChar c :: dehyphenate r else '-' :: dehyphenate (c :: r)
  | c :: r => c :: dehyphenate r
  | [] => []

/-- The name of a property in capitals-and-small-letters form. -/
def toCamelCase (name : String) : String := String.ofList (dehyphenate name.toList)

/-- No small letter comes first. -/
def NoSmallFirst (cs : List Char) : Prop := ∀ x ∈ cs.head?, isLower x = false

/-- No small letter stands behind a hyphen, as it does where a hyphen stands for a capital. -/
def Unmarked (cs : List Char) : Prop := ∀ x, isLower x = true → ¬ ['-', x] <:+: cs

theorem unmarked_cons_iff : Unmarked (c :: r) ↔ (c = '-' → NoSmallFirst r) ∧ Unmarked r := by
  constructor
  · intro unmarked
    constructor
    · rintro rfl x first
      cases r with
      | nil => cases first
      | cons d t =>
        cases first
        rw [Bool.eq_false_iff]
        intro small
        exact unmarked x small ⟨[], t, rfl⟩
    · intro x small inside
      exact unmarked x small (List.infix_cons inside)
  · rintro ⟨apart, rest⟩ x small inside
    rcases List.infix_cons_iff.mp inside with ⟨t, here⟩ | later
    · cases here
      rw [apart rfl x rfl] at small
      cases small
    · exact rest x small later

theorem unmarked_of_notMem (noHyphen : '-' ∉ cs) : Unmarked cs := by
  intro x _ inside
  exact noHyphen (inside.subset List.mem_cons_self)

/-- A character that marks no capital is kept. -/
theorem dehyphenate_cons (apart : c = '-' → NoSmallFirst r) :
    dehyphenate (c :: r) = c :: dehyphenate r := by
  by_cases hyphen : c = '-'
  · subst hyphen
    cases r with
    | nil => rfl
    | cons d t =>
      have noSmall : isLower d = false := apart rfl d rfl
      rw [dehyphenate, noSmall]
      rfl
  · rw [dehyphenate]
    exact fun _ _ same _ => hyphen same

theorem noSmallFirst_hyphenate (apart : NoSmallFirst cs) : NoSmallFirst (hyphenate cs) := by
  cases cs with
  | nil => exact apart
  | cons c r =>
    by_cases capital : isUpper c = true
    · -- The small letter of a capital comes second, behind its hyphen.
      rw [hyphenate_of_isUpper capital]
      rintro x ⟨⟩
      rfl
    · rw [hyphenate_of_not_isUpper capital]
      rintro x ⟨⟩
      exact apart c rfl

theorem noSmallFirst_dehyphenate (apart : NoSmallFirst cs) : NoSmallFirst (dehyphenate cs) := by
  fun_cases dehyphenate cs with
  | case1 c r small =>
    rintro x ⟨⟩
    exact isLower_of_isUpper (isUpper_upperChar small)
  | case2 c r other =>
    rintro x ⟨⟩
    rfl
  | case3 c r noMark =>
    rintro x ⟨⟩
    exact apart c rfl
  | case4 => exact apart

theorem dehyphenate_hyphenate (unmarked : Unmarked cs) : dehyphenate (hyphenate cs) = cs := by
  induction cs with
  | nil => rfl
  | cons c r ih =>
    obtain ⟨apart, rest⟩ := unmarked_cons_iff.mp unmarked
    by_cases capital : isUpper c = true
    · rw [hyphenate_of_isUpper capital, dehyphenate, if_pos (isLower_lowerChar capital),
        upperChar_lowerChar capital, ih rest]
    · rw [hyphenate_of_not_isUpper capital,
        dehyphenate_cons fun hyphen => noSmallFirst_hyphenate (apart hyphen), ih rest]

/-- Where capitals have been put back no hyphen marks one. -/
theorem unmarked_dehyphenate (cs : List Char) : Unmarked (dehyphenate cs) := by
  fun_induction dehyphenate cs with
  | case1 c r small ih =>
    refine unmarked_cons_iff.mpr ⟨fun hyphen => ?_, ih⟩
    have capital := isUpper_upperChar small
    rw [hyphen] at capital
    cases capital
  | case2 c r other ih =>
    refine unmarked_cons_iff.mpr ⟨fun _ => noSmallFirst_dehyphenate ?_, ih⟩
    rintro x ⟨⟩
    exact Bool.eq_false_iff.mpr other
  | case3 c r noMark ih =>
    refine unmarked_cons_iff.mpr ⟨fun hyphen => noSmallFirst_dehyphenate ?_, ih⟩
    cases r with
    | nil => nofun
    | cons d t => exact (noMark d t hyphen rfl).elim
  | case4 => exact unmarked_of_notMem List.not_mem_nil

theorem toCamelCase_toKebabCase_iff {p : String} :
    toCamelCase (toKebabCase p) = p ↔ Unmarked p.toList := by
  have back : (toCamelCase (toKebabCase p)).toList = dehyphenate (hyphenate p.toList) := by
    simp [toCamelCase, toKebabCase]
  rw [← String.toList_inj, back]
  constructor
  · intro same
    rw [← same]
    exact unmarked_dehyphenate _
  · exact dehyphenate_hyphenate

/-- Hyphenating leaves no capital, and a name without capitals as it is, so a second time it changes nothing.
The capitals can be put back exactly if no hyphen of the name looks like one that stands for a capital, so in
each name without hyphens. Among these different names stay different. -/
theorem hyphenation_is_reversible :
    (∀ p : String, ∀ c ∈ (toKebabCase p).toList, isUpper c = false) ∧
    (∀ p : String, toKebabCase (toKebabCase p) = toKebabCase p) ∧
    (∀ p : String, toKebabCase p = p ↔ ∀ c ∈ p.toList, isUpper c = false) ∧
    (∀ p : String, toCamelCase (toKebabCase p) = p ↔ Unmarked p.toList) ∧
    (∀ p : String, '-' ∉ p.toList → toCamelCase (toKebabCase p) = p) ∧
    ∀ p q : String, '-' ∉ p.toList → '-' ∉ q.toList → toKebabCase p = toKebabCase q → p = q := by
  have back (p : String) (noHyphen : '-' ∉ p.toList) : toCamelCase (toKebabCase p) = p :=
    toCamelCase_toKebabCase_iff.mpr (unmarked_of_notMem noHyphen)
  refine ⟨?_, toKebabCase_toKebabCase, fun p => toKebabCase_eq_self_iff,
    fun p => toCamelCase_toKebabCase_iff, back, ?_⟩
  · intro p
    exact toKebabCase_eq_self_iff.mp (toKebabCase_toKebabCase p)
  · intro p q noHyphen noHyphen' same
    calc p = toCamelCase (toKebabCase p) := (back p noHyphen).symm
      _ = toCamelCase (toKebabCase q) := congrArg toCamelCase same
      _ = q := back q noHyphen'

/-- Capitals in front, in a run and alone. -/
theorem hyphenation_is_reversible_for_runs_of_capitals :
    '-' ∉ "OSXFont".toList ∧ toKebabCase "OSXFont" = "-o-s-x-font" ∧
      toCamelCase "-o-s-x-font" = "OSXFont" ∧ toKebabCase "OsxFont" ≠ toKebabCase "OSXFont" := by
  obtain ⟨-, -, -, -, back, different⟩ := hyphenation_is_reversible
  have noHyphen : '-' ∉ "OSXFont".toList := by decide +kernel
  have kebab : toKebabCase "OSXFont" = "-o-s-x-font" := by decide +kernel
  refine ⟨noHyphen, kebab, kebab ▸ back _ noHyphen, fun same => ?_⟩
  exact absurd (different _ _ (by decide +kernel) noHyphen same) (by decide +kernel)

end UtilityCss.Utility
