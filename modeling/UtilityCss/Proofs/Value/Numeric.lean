import UtilityCss.Proofs.Value.Number

/-!
# Where numeric values start and what they are made of

A number, a percentage or a dimension starts with a sign, a digit or a point. A percent sign and the unit of
a dimension stand in the text itself, a unit without escapes letter by letter.
-/
namespace UtilityCss.Value

open UtilityCss.Text

/-- A number can start here. -/
def startsNumber (c : Char) : Bool := isDigit c || c == '.' || c == '+' || c == '-'

/-- The text is a number, a percentage, a length or a time. -/
def IsNumeric (text : String) : Prop :=
  isNumber text = true ∨ isPercentage text = true ∨ isLength text = true ∨ isTime text = true

variable {cs r : List Char} {c : Char} {unit : List Char} {text : String}

/-! ## The first character -/

theorem isBlank_of_startsNumber (start : startsNumber c = true) : isBlank c = false := by
  simp only [startsNumber, Bool.or_eq_true, beq_iff_eq] at start
  rcases start with ((digit | rfl) | rfl) | rfl
  · exact isBlank_of_isDigit digit
  all_goals decide

theorem exists_first_of_digitsStartAt (starts : digitsStartAt cs = true) :
    ∃ c r, cs = c :: r ∧ startsNumber c = true := by
  revert starts
  fun_cases digitsStartAt cs with
  | case1 c r => exact fun _ => ⟨'.', c :: r, rfl, rfl⟩
  | case2 c r noPoint => exact fun digit => ⟨c, r, rfl, by simp [startsNumber, digit]⟩
  | case3 =>
    intro starts
    cases starts

theorem exists_first_of_readToken (numeric : (readToken cs).1 ≠ .other) :
    ∃ c r, cs = c :: r ∧ startsNumber c = true := by
  have starts : digitsStartAt (dropSign cs) = true := by
    by_contra other
    rw [readToken, if_neg other] at numeric
    exact numeric rfl
  obtain ⟨sign, isSign, whole⟩ := exists_sign cs
  cases isSign with
  | absent => exact whole ▸ exists_first_of_digitsStartAt starts
  | plus => exact ⟨_, _, whole, rfl⟩
  | minus => exact ⟨_, _, whole, rfl⟩

/-! ## What is left of a text is its end -/

theorem dropSign_suffix (cs : List Char) : dropSign cs <:+ cs := by
  obtain ⟨sign, -, whole⟩ := exists_sign cs
  exact ⟨sign, whole.symm⟩

theorem dropDigits_suffix (cs : List Char) : dropDigits cs <:+ cs := by
  have behind : cs.dropWhile isDigit <:+ cs := List.dropWhile_suffix isDigit
  fun_cases dropDigits cs with
  | case1 c r point digit =>
    rw [point] at behind
    exact ((List.dropWhile_suffix isDigit).trans ⟨['.', c], rfl⟩).trans behind
  | case2 c r point noDigit => exact point ▸ behind
  | case3 other => exact behind

theorem dropExponent_suffix (cs : List Char) : dropExponent cs <:+ cs := by
  fun_cases dropExponent cs with
  | case1 c r power =>
    exact ((List.dropWhile_suffix isDigit).trans (dropSign_suffix r)).trans (List.suffix_cons c r)
  | case2 c r noPower => exact List.suffix_refl _
  | case3 => exact List.suffix_refl _

/-- A numeric token ends with the unit, which stands at the end of the text. -/
theorem exists_readUnit (numeric : (readToken cs).1 ≠ .other) :
    ∃ rest, rest <:+ cs ∧ readToken cs = readUnit rest := by
  refine ⟨dropExponent (dropDigits (dropSign cs)),
    ((dropExponent_suffix _).trans (dropDigits_suffix _)).trans (dropSign_suffix cs), ?_⟩
  by_cases starts : digitsStartAt (dropSign cs) = true
  · rw [readToken, if_pos starts]
  · rw [readToken, if_neg starts] at numeric
    exact absurd rfl numeric

/-! ## Units -/

/-- Without escapes and characters that cannot be written, the first character is read as it is. -/
theorem eq_cons_of_readNameChar (plain : ∀ c ∈ cs, c ≠ '\\' ∧ c ≠ '\x00')
    (read : readNameChar cs = some (c, r)) : cs = c :: r := by
  cases cs with
  | nil => cases read
  | cons a t =>
    obtain ⟨noEscape, written⟩ := plain a List.mem_cons_self
    simp only [readNameChar, beq_iff_eq, noEscape, written, if_false] at read
    split at read
    · cases read
      rfl
    · cases read

/-- So a name is read letter by letter. -/
theorem mem_of_mem_readName (plain : ∀ c ∈ cs, c ≠ '\\' ∧ c ≠ '\x00') :
    ∀ c ∈ (readName cs).1, c ∈ cs := by
  fun_induction readName cs with
  | case1 cs ends => nofun
  | case2 cs c r read shorter name rest more ih =>
    have first : cs = c :: r := eq_cons_of_readNameChar plain read
    subst first
    rw [more] at ih
    exact List.forall_mem_cons.mpr ⟨List.mem_cons_self, fun a inside =>
      List.mem_cons_of_mem c (ih (fun b later => plain b (List.mem_cons_of_mem c later)) a inside)⟩

theorem mem_of_percentage (token : (readToken cs).1 = .percentage) : '%' ∈ cs := by
  obtain ⟨rest, behind, read⟩ := exists_readUnit (by rw [token]; nofun)
  rw [read] at token
  revert token
  fun_cases readUnit rest with
  | case1 r => exact fun _ => behind.subset List.mem_cons_self
  | case2 =>
    intro token
    cases token
  | case3 =>
    intro token
    cases token

theorem mem_of_mem_unit (plain : ∀ c ∈ cs, c ≠ '\\' ∧ c ≠ '\x00')
    (token : (readToken cs).1 = .dimension unit) : ∀ c ∈ unit, c ∈ cs := by
  obtain ⟨rest, behind, read⟩ := exists_readUnit (by rw [token]; nofun)
  rw [read] at token
  revert token
  fun_cases readUnit rest with
  | case1 r =>
    intro token
    cases token
  | case2 cs noPercent named name more read =>
    rintro ⟨⟩ c inside
    refine behind.subset (mem_of_mem_readName (fun a h => plain a (behind.subset h)) c ?_)
    rw [read]
    exact inside
  | case3 =>
    intro token
    cases token

/-! ## Numeric texts -/

theorem exists_isSingle (numeric : IsNumeric text) :
    ∃ accept, accept .other = false ∧ isSingle accept text.toList = true := by
  rcases numeric with number | percentage | length | time
  · rw [isNumber, Bool.and_eq_true] at number
    exact ⟨_, by decide, number.2⟩
  · exact ⟨_, by decide, percentage⟩
  · exact ⟨_, by rfl, length⟩
  · exact ⟨_, by rfl, time⟩

theorem IsNumeric.trimmed (numeric : IsNumeric text) : Trimmed isBlank text.toList := by
  obtain ⟨accept, -, single⟩ := exists_isSingle numeric
  exact (isSingle_iff.mp single).1

theorem IsNumeric.exists_first (numeric : IsNumeric text) :
    ∃ c r, text.toList = c :: r ∧ startsNumber c = true := by
  obtain ⟨accept, other, single⟩ := exists_isSingle numeric
  refine exists_first_of_readToken fun token => ?_
  have accepted := (isSingle_iff.mp single).2.1
  rw [token, other] at accepted
  cases accepted

end UtilityCss.Value
