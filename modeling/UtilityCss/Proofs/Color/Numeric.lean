import UtilityCss.Proofs.Color.Literal

/-!
# Numeric values that are taken for colors

Of the characters of a hexadecimal literal no percentage, no length and no time can be made, and only such
numbers as are digits with a plus sign or none. With the sign they are colors if they fill the digit pairs
of a color.
-/
namespace UtilityCss.Color

open UtilityCss.Text UtilityCss.Value

variable {cs : List Char} {c : Char} {text : String}

/-! ## Numeric texts of hexadecimal digits and plus signs -/

theorem isHexOrPlus_lowerChar (plain : isHexOrPlus c = true) : isHexOrPlus (lowerChar c) = true := by
  have ascii : c.toNat < 128 := by
    simp only [isHexOrPlus, Bool.or_eq_true, beq_iff_eq] at plain
    rcases plain with hex | rfl
    · exact toNat_lt_of_isHexDigit hex
    · decide
  revert plain
  exact of_ascii (P := fun c => isHexOrPlus c = true → isHexOrPlus (lowerChar c) = true)
    (by decide +kernel) ascii

/-- Every unit has another letter, and no other letter is read without an escape. -/
theorem hasUnit_of_isHexOrPlus {units : List String}
    (letters : ∀ unit ∈ units, unit.toList.all isHexOrPlus = false)
    (plain : ∀ c ∈ cs, isHexOrPlus c = true) : Token.hasUnit units (readToken cs).1 = false := by
  have written : ∀ c ∈ cs, c ≠ '\\' ∧ c ≠ '\x00' := by
    intro c inside
    constructor <;> rintro rfl <;> exact absurd (plain _ inside) (by decide)
  cases token : (readToken cs).1 with
  | number => rfl
  | percentage => rfl
  | other => rfl
  | dimension unit =>
    rw [Bool.eq_false_iff]
    intro known
    have other := letters _ (List.contains_iff_mem.mp known)
    rw [String.toList_ofList, lower, List.all_map, List.all_eq_false] at other
    obtain ⟨c, inside, other⟩ := other
    exact other (isHexOrPlus_lowerChar (plain c (mem_of_mem_unit written token c inside)))

/-- Of such characters nothing but a number is made. -/
theorem measures_of_isHexOrPlus (plain : ∀ c ∈ text.toList, isHexOrPlus c = true) :
    isPercentage text = false ∧ isLength text = false ∧ isTime text = false := by
  refine ⟨?_, ?_, ?_⟩ <;> rw [Bool.eq_false_iff]
  · intro percentage
    have token := (isSingle_iff.mp percentage).2.1
    exact absurd (plain '%' (mem_of_percentage (beq_iff_eq.mp token))) (by decide)
  · intro length
    have token := (isSingle_iff.mp length).2.1
    rw [hasUnit_of_isHexOrPlus (by decide) plain] at token
    cases token
  · intro time
    have token := (isSingle_iff.mp time).2.1
    rw [hasUnit_of_isHexOrPlus (by decide) plain] at token
    cases token

/-- And a number is digits, perhaps with a plus sign in front. -/
theorem exists_digits_of_isNumber (number : isNumber text = true)
    (plain : ∀ c ∈ text.toList, isHexOrPlus c = true) :
    ∃ digits, (text.toList = digits ∨ text.toList = '+' :: digits) ∧
      ∀ c ∈ digits, isDigit c = true := by
  obtain ⟨-, -, run, sign, decimal, isSign, isPlain, filler, whole⟩ := isNumber_iff.mp number
  rw [whole] at plain
  have bare : run = [] := by
    cases run with
    | nil => rfl
    | cons a r =>
      have other : ∀ c ∈ fillerStarts, isHexOrPlus c = false := of_mem_fillerStarts (by decide)
      have first := other a (filler.mem_fillerStarts a rfl)
      rw [plain a (by simp)] at first
      cases first
  have digits : ∀ c ∈ decimal, isDigit c = true := by
    cases isPlain with
    | whole digits => exact digits.2
    | fraction optional digits => exact absurd (plain '.' (by simp)) (by decide)
  rw [whole, bare, List.append_nil]
  cases isSign with
  | absent => exact ⟨decimal, Or.inl rfl, digits⟩
  | plus => exact ⟨decimal, Or.inr rfl, digits⟩
  | minus => exact absurd (plain '-' (by simp)) (by decide)

/-! ## Numbers that are colors -/

/-- A plus sign and as many digits as fill the pairs of a color with it. -/
def IsSignedPairs (text : String) : Prop :=
  ∃ digits, text.toList = '+' :: digits ∧ (∀ c ∈ digits, isDigit c = true) ∧
    (digits.length = 5 ∨ digits.length = 7)

theorem isColorOrKeyword_iff_of_isNumeric (numeric : IsNumeric text) :
    isColorOrKeyword text = true ↔
      ¬ (∀ a ∈ text.toList, isHexDigit a = true) ∧ (hexLiteral? text.toList).isSome := by
  obtain ⟨c, r, first, start⟩ := numeric.exists_first
  exact isColorOrKeyword_iff_of_startsNumber numeric.trimmed first start

theorem isSignedPairs_of_isColor (number : isNumber text = true)
    (color : isColorOrKeyword text = true) : IsSignedPairs text := by
  obtain ⟨notDigits, hex⟩ := (isColorOrKeyword_iff_of_isNumeric (Or.inl number)).mp color
  obtain ⟨digits, unsigned | signed, all⟩ :=
    exists_digits_of_isNumber number (isHexOrPlus_of_isSome hex)
  · exact absurd (fun a inside => isHexDigit_of_isDigit (all a (unsigned ▸ inside))) notDigits
  · refine ⟨digits, signed, all, ?_⟩
    rcases isSome_hexLiteral?_iff.mp hex with ⟨-, only⟩ | ⟨lengths, -⟩
    · exact absurd only notDigits
    · rw [signed, List.length_cons] at lengths
      omega

theorem isNumber_of_isSignedPairs (signed : IsSignedPairs text) : isNumber text = true := by
  obtain ⟨digits, whole, all, lengths⟩ := signed
  have filled : digits ≠ [] := by
    rintro rfl
    simp at lengths
  have start : ∀ c ∈ text.toList, startsNumber c = true := by
    rw [whole]
    exact List.forall_mem_cons.mpr ⟨by decide, fun c inside => by simp [startsNumber, all c inside]⟩
  refine isNumber_iff.mpr ⟨⟨fun small => ?_, fun capital => ?_⟩,
    trimmed_of_forall fun c inside => isBlank_of_startsNumber (start c inside),
    [], ['+'], digits, .plus, .whole ⟨filled, all⟩, .done, ?_⟩
  · exact absurd (start 'e' small) (by decide)
  · exact absurd (start 'E' capital) (by decide)
  · rw [whole, List.append_nil]
    rfl

theorem isColor_of_isSignedPairs (signed : IsSignedPairs text) : isColorOrKeyword text = true := by
  have numeric : IsNumeric text := Or.inl (isNumber_of_isSignedPairs signed)
  obtain ⟨digits, whole, all, lengths⟩ := signed
  have hex : ∀ c ∈ digits, isHexDigit c = true := fun c inside => isHexDigit_of_isDigit (all c inside)
  rw [isColorOrKeyword_iff_of_isNumeric numeric, whole]
  refine ⟨fun only => absurd (only '+' List.mem_cons_self) (by decide),
    isSome_hexLiteral?_iff.mpr (Or.inr ⟨?_, ?_⟩)⟩
  · rw [List.length_cons]
    omega
  · cases digits with
    | nil => simp at lengths
    | cons d r =>
      obtain ⟨digit, more⟩ := List.forall_mem_cons.mp hex
      rw [List.length_cons] at lengths
      exact ⟨Or.inr rfl, digit, pairsUp_of_digits more (by omega)⟩

/-- A number is a color exactly if it is a plus sign and as many digits as fill the pairs of a color with it.
No percentage, length or time is a color. -/
theorem numeric_color_iff (text : String) :
    (isNumber text = true ∧ isColorOrKeyword text = true ↔ IsSignedPairs text) ∧
    ((isPercentage text || isLength text || isTime text) && isColorOrKeyword text) = false := by
  constructor
  · constructor
    · exact fun ⟨number, color⟩ => isSignedPairs_of_isColor number color
    · exact fun signed => ⟨isNumber_of_isSignedPairs signed, isColor_of_isSignedPairs signed⟩
  · rw [Bool.eq_false_iff]
    intro both
    simp only [Bool.and_eq_true, Bool.or_eq_true, or_assoc] at both
    obtain ⟨measure, color⟩ := both
    obtain ⟨-, hex⟩ := (isColorOrKeyword_iff_of_isNumeric (Or.inr measure)).mp color
    obtain ⟨percentage, length, time⟩ := measures_of_isHexOrPlus (isHexOrPlus_of_isSome hex)
    simp [percentage, length, time] at measure

/-- Numbers of five and seven digits with a plus sign are colors. -/
theorem signed_numbers_are_colors :
    isNumber "+12345" = true ∧ isColorOrKeyword "+12345" = true ∧
    literal? "+12345" = some ⟨⟨0x01, 0x23, 0x45⟩, 255⟩ ∧
    isNumber "+1234567" = true ∧ isColorOrKeyword "+1234567" = true := by
  decide +kernel

end UtilityCss.Color
