import UtilityCss.Decimal.Reading
import UtilityCss.Proofs.Text

/-!
# Plain decimals

A plain decimal is written with digits and at most one point, which has digits behind it; a sign may
stand in front. What cannot go on with the digits and is no power of ten either keeps the text from being
read as a number.
-/
namespace UtilityCss.Decimal

open UtilityCss.Text

/-- A sign, or nothing. -/
inductive IsSign : List Char → Prop where
  | absent : IsSign []
  | plus : IsSign ['+']
  | minus : IsSign ['-']

/-- Digits, and at least one. -/
def IsDigits (cs : List Char) : Prop := cs ≠ [] ∧ ∀ c ∈ cs, isDigit c = true

/-- Digits, or a point with digits behind it and perhaps some in front. -/
inductive IsPlain : List Char → Prop where
  | whole {cs : List Char} (digits : IsDigits cs) : IsPlain cs
  | fraction {before behind : List Char} (optional : ∀ c ∈ before, isDigit c = true)
      (digits : IsDigits behind) : IsPlain (before ++ '.' :: behind)

/-- The digits and the point of a number in front of the text do not go on in it. -/
def EndsDigits (cs : List Char) : Prop := ∀ c ∈ cs.head?, isDigit c = false ∧ c ≠ '.'

variable {cs sign number before behind rest : List Char}

/-! ## The first character -/

/-- A plain decimal starts with a digit or the point. -/
theorem IsPlain.exists_cons (plain : IsPlain number) :
    ∃ c r, number = c :: r ∧ (isDigit c = true ∨ c = '.') := by
  cases plain with
  | whole digits =>
    obtain ⟨c, r, rfl⟩ := List.exists_cons_of_ne_nil digits.1
    exact ⟨c, r, rfl, Or.inl (digits.2 c List.mem_cons_self)⟩
  | @fraction before behind optional digits =>
    cases before with
    | nil => exact ⟨'.', behind, rfl, Or.inr rfl⟩
    | cons c r => exact ⟨c, r ++ '.' :: behind, rfl, Or.inl (optional c List.mem_cons_self)⟩

/-- Digits and points have no case. -/
theorem lowerChar_eq_self {c : Char} (numeral : isDigit c = true ∨ c = '.') : lowerChar c = c := by
  have noCapital : isUpper c = false := by
    rcases numeral with digit | rfl
    · rw [Bool.eq_false_iff]
      intro capital
      simp only [isDigit, isUpper, Bool.and_eq_true, decide_eq_true_eq] at digit capital
      exact absurd (Char.le_trans capital.1 digit.2) (by decide)
    · decide
  rw [lowerChar, noCapital]
  rfl

/-- A word that starts with a letter is no decimal. -/
theorem sameIgnoringCase_eq_false {letter : Char} (word : List Char)
    (apart : isDigit letter = false ∧ letter ≠ '.') (small : lowerChar letter = letter)
    (plain : IsPlain number) : sameIgnoringCase (number ++ rest) (letter :: word) = false := by
  obtain ⟨c, r, rfl, numeral⟩ := plain.exists_cons
  have differ : c ≠ letter := by
    rintro rfl
    rcases numeral with digit | point
    · exact absurd digit (by simp [apart.1])
    · exact apart.2 point
  simp [sameIgnoringCase, lower, lowerChar_eq_self numeral, small, differ]

theorem splitSign_of_isSign (isSign : IsSign sign) (plain : IsPlain number) (rest : List Char) :
    (splitSign (sign ++ number ++ rest)).2 = number ++ rest := by
  cases isSign with
  | absent =>
    obtain ⟨c, r, rfl, numeral⟩ := plain.exists_cons
    have unsigned : c ≠ '-' ∧ c ≠ '+' := by
      constructor <;> rintro rfl <;> exact absurd numeral (by decide)
    simp [splitSign, unsigned]
  | plus => rfl
  | minus => rfl

/-! ## Digits and what follows -/

theorem EndsDigits.noDigit (ends : EndsDigits rest) : ∀ c ∈ rest.head?, isDigit c = false :=
  fun c first => (ends c first).1

theorem splitDigits_whole (digits : ∀ c ∈ before, isDigit c = true) (ends : EndsDigits rest) :
    splitDigits (before ++ rest) = (before, [], rest) := by
  rw [splitDigits, takeWhile_append_eq digits ends.noDigit, dropWhile_append_eq digits ends.noDigit]
  cases rest with
  | nil => rfl
  | cons c r =>
    have noPoint : c ≠ '.' := (ends c rfl).2
    simp [noPoint]

theorem splitDigits_fraction (optional : ∀ c ∈ before, isDigit c = true)
    (digits : ∀ c ∈ behind, isDigit c = true) (ends : EndsDigits rest) :
    splitDigits (before ++ '.' :: behind ++ rest) = (before, behind, rest) := by
  have point : ∀ c ∈ ('.' :: (behind ++ rest)).head?, isDigit c = false := by
    rintro c ⟨⟩
    decide
  rw [List.append_assoc, List.cons_append, splitDigits, takeWhile_append_eq optional point,
    dropWhile_append_eq optional point]
  simp only
  rw [takeWhile_append_eq digits ends.noDigit, dropWhile_append_eq digits ends.noDigit]

/-- All digits are found, and nothing else is taken. -/
theorem exists_splitDigits (plain : IsPlain number) (ends : EndsDigits rest) :
    ∃ whole fraction, splitDigits (number ++ rest) = (whole, fraction, rest) ∧
      ¬ (whole = [] ∧ fraction = []) := by
  cases plain with
  | whole digits =>
    exact ⟨number, [], splitDigits_whole digits.2 ends, fun none => digits.1 none.1⟩
  | @fraction before behind optional digits =>
    exact ⟨before, behind, splitDigits_fraction optional digits.2 ends, fun none => digits.1 none.2⟩

/-- What is not the marker of a power of ten is no power of ten. -/
theorem isSome_exponent?_iff (noPower : ∀ c ∈ rest.head?, c ≠ 'e' ∧ c ≠ 'E') :
    (exponent? rest).isSome ↔ rest = [] := by
  cases rest with
  | nil => simp [exponent?]
  | cons c r =>
    have other := noPower c rfl
    simp [exponent?, other]

/-- A plain decimal starts none of the words that are numbers, so it is read as a finite number. -/
theorem exists_ofText?_eq (isSign : IsSign sign) (plain : IsPlain number) (rest : List Char) :
    ∃ negative, Numeral.ofText? (sign ++ number ++ rest) =
      (Scientific.ofText? (number ++ rest)).map (.finite negative) := by
  have inf : sameIgnoringCase (number ++ rest) ['i', 'n', 'f'] = false :=
    sameIgnoringCase_eq_false _ (by decide) (by decide) plain
  have infinity :
      sameIgnoringCase (number ++ rest) ['i', 'n', 'f', 'i', 'n', 'i', 't', 'y'] = false :=
    sameIgnoringCase_eq_false _ (by decide) (by decide) plain
  have nan : sameIgnoringCase (number ++ rest) ['n', 'a', 'n'] = false :=
    sameIgnoringCase_eq_false _ (by decide) (by decide) plain
  refine ⟨(splitSign (sign ++ number ++ rest)).1, ?_⟩
  rw [Numeral.ofText?]
  simp only [splitSign_of_isSign isSign plain]
  rw [if_neg (by simp [inf, infinity]), if_neg (by simp [nan])]

/-- A plain decimal is read if nothing stands behind it, and is not read if anything does but digits, a
point or a power of ten. -/
theorem isSome_ofText?_iff (isSign : IsSign sign) (plain : IsPlain number)
    (ends : EndsDigits rest) (noPower : ∀ c ∈ rest.head?, c ≠ 'e' ∧ c ≠ 'E') :
    (Numeral.ofText? (sign ++ number ++ rest)).isSome ↔ rest = [] := by
  obtain ⟨negative, read⟩ := exists_ofText?_eq isSign plain rest
  obtain ⟨whole, fraction, split, filled⟩ := exists_splitDigits plain ends
  have digits : (whole.isEmpty && fraction.isEmpty) = false := by
    simpa using filled
  rw [← isSome_exponent?_iff noPower, read, Option.isSome_map, Scientific.ofText?, split]
  simp [digits]

end UtilityCss.Decimal
