import UtilityCss.Value.Scale
import UtilityCss.Proofs.Decimal.Written
import UtilityCss.Proofs.Value.Numeric

/-!
# Scaled numbers are lengths

What a number is scaled to is a length as long as the product is finite, whatever decimal it has. The
result is no length in two cases: a number with filler behind it is not read and stands for itself, and a
product beyond all numbers is written as a word.
-/
namespace UtilityCss.Value

open UtilityCss.Text
open UtilityCss.Decimal (IsSign IsPlain EndsDigits)

variable {text value unit : String} {x y sizing : Float} {sign number : List Char}

/-! ## Decimals with a unit -/

theorem readUnit_rem : readUnit "rem".toList = (.dimension "rem".toList, []) := by cbv

/-- A plain decimal with a length unit behind it is a length. -/
theorem isLength_of_isPlain (isSign : IsSign sign) (plain : IsPlain number)
    (whole : text.toList = sign ++ number ++ "rem".toList) : isLength text = true := by
  have ends : EndsDigits "rem".toList := by
    rintro c ⟨⟩
    decide
  have noPower : ∀ c ∈ "rem".toList.head?, c ≠ 'e' ∧ c ≠ 'E' := by
    rintro c ⟨⟩
    decide
  have token : readToken text.toList = (.dimension "rem".toList, []) := by
    rw [whole, readToken_of_isPlain isSign plain ends noPower, readUnit_rem]
  have numeric : (readToken text.toList).1 ≠ .other := by
    rw [token]
    nofun
  obtain ⟨c, r, first, start⟩ := exists_first_of_readToken numeric
  have last : text.toList.getLast? = some 'm' := by
    rw [whole, List.getLast?_append]
    rfl
  refine isSingle_iff.mpr ⟨⟨?_, ?_⟩, ?_⟩
  · rw [first]
    rintro c ⟨⟩
    exact isBlank_of_startsNumber start
  · rw [last]
    rintro c ⟨⟩
    decide
  · rw [token]
    exact ⟨by decide, .done⟩

/-! ## The written product -/

/-- Zero and every other finite number are written as plain decimals. -/
theorem exists_plain_formatNumber (finite : y.isFinite = true) :
    ∃ sign number, IsSign sign ∧ IsPlain number ∧ (formatNumber y).toList = sign ++ number := by
  unfold formatNumber
  split
  · exact ⟨[], ['0'], .absent, .whole Decimal.isDigits_zero, rfl⟩
  · exact Decimal.exists_plain_of_isFinite finite

theorem formatNumber_of_isInf (infinite : y.isInf = true) :
    formatNumber y = "inf" ∨ formatNumber y = "-inf" := by
  have other : (y == 0.0) = false := by
    have infinite : y.toModel.unpack.isInf = true := infinite
    show y.toModel.unpack.beq (.zero .positive) = false
    generalize y.toModel.unpack = f at infinite
    cases f with
    | infinity s => cases s <;> rfl
    | notANumber => cases infinite
    | zero s => cases infinite
    | finite s m e pos => cases infinite
  rw [formatNumber, other]
  exact Decimal.ofFloat_of_isInf infinite

/-- With the unit behind it a number makes a length, and the words of the infinite numbers do not. -/
theorem isLength_formatNumber_iff (isNumber : y.isNaN = false) :
    isLength (formatNumber y ++ "rem") = true ↔ y.isInf = false := by
  constructor
  · intro length
    rw [Bool.eq_false_iff]
    intro infinite
    rcases formatNumber_of_isInf infinite with word | word <;> rw [word] at length <;>
      exact absurd length (by decide +kernel)
  · intro inside
    obtain ⟨sign, number, isSign, plain, written⟩ :=
      exists_plain_formatNumber (Decimal.isFinite_of_number isNumber inside)
    refine isLength_of_isPlain isSign plain ?_
    rw [String.toList_append, written]

/-! ## Scaling -/

/-- The value of a number is a number. -/
theorem isNaN_of_numberValue (read : numberValue text = .ok x) : x.isNaN = false := by
  obtain ⟨number, -⟩ := exists_numberValue_iff.mp ⟨x, read⟩
  obtain ⟨-, -, run, sign, decimal, isSign, plain, -, whole⟩ := isNumber_iff.mp number
  obtain ⟨negative, finite⟩ := Decimal.exists_ofText?_eq isSign plain run
  rw [numberValue, number, Decimal.float?, whole, finite] at read
  cases given : Decimal.Scientific.ofText? (decimal ++ run) with
  | none =>
    rw [given] at read
    cases read
  | some s =>
    rw [given] at read
    cases read
    exact Decimal.Numeral.isNaN_toFloat_finite negative s

theorem scaleSizing_of_unread (unread : ∀ x, numberValue (value ++ unit) ≠ .ok x) :
    scaleSizing value unit sizing = value ++ unit := by
  unfold scaleSizing
  split
  · next zero =>
    simp only [Bool.and_eq_true, beq_iff_eq, String.isEmpty_iff] at zero
    rw [zero.1, zero.2]
    rfl
  · split
    · next x read => exact absurd read (unread x)
    · rfl

/-- A number is multiplied, and what is written down without unit is a zero. -/
theorem scaleSizing_of_read (read : numberValue (value ++ unit) = .ok x) :
    scaleSizing value unit sizing = formatNumber (sizing * x) ++ "rem" ∨
      scaleSizing value unit sizing = "0" ∧ x = 0.0 := by
  unfold scaleSizing
  split
  · next zero =>
    simp only [Bool.and_eq_true, beq_iff_eq, String.isEmpty_iff] at zero
    have known : numberValue ("0" ++ "") = .ok 0.0 := rfl
    rw [zero.1, zero.2, known] at read
    cases read
    exact Or.inr ⟨rfl, rfl⟩
  · rw [read]
    exact Or.inl rfl

/-- The numbers that are scaled to something else than a length: filler stands behind the decimal, or the
product is beyond all numbers. -/
inductive LosesLength (text : String) (sizing : Float) : Prop where
  | filler {run : List Char} (parts : NumberThen text.toList run) (filled : run ≠ [])
  | overflow {x : Float} (read : numberValue text = .ok x) (beyond : (sizing * x).isInf = true)

/-- A number with filler is not read. -/
theorem unread_of_filler {run : List Char} (parts : NumberThen text.toList run) (filled : run ≠ []) :
    ∀ x, numberValue text ≠ .ok x := by
  intro x read
  obtain ⟨-, whole⟩ := exists_numberValue_iff.mp ⟨x, read⟩
  exact filled (parts.isSome_ofText?_iff.mp whole)

/-- Any other number is read, and its product is finite. -/
theorem exists_finite_product (number : isNumber text = true)
    (keeps : ¬ LosesLength text sizing) :
    ∃ x, numberValue text = .ok x ∧ (sizing * x).isInf = false := by
  obtain ⟨-, -, run, parts⟩ := isNumber_iff.mp number
  have bare : run = [] := by
    by_contra filled
    exact keeps (.filler parts filled)
  obtain ⟨x, read⟩ := exists_numberValue_iff.mpr ⟨number, parts.isSome_ofText?_iff.mpr bare⟩
  refine ⟨x, read, ?_⟩
  rw [Bool.eq_false_iff]
  exact fun beyond => keeps (.overflow read beyond)

/-- A zero without unit, or a length. -/
def IsZeroOrLength (text : String) : Prop := text = "0" ∨ isLength text = true

theorem not_isZeroOrLength_of_filler {run : List Char} (parts : NumberThen text.toList run)
    (filled : run ≠ []) : ¬ IsZeroOrLength text := by
  rintro (rfl | length)
  · have zero : NumberThen "0".toList [] :=
      ⟨[], ['0'], .absent, .whole Decimal.isDigits_zero, .done, rfl⟩
    exact filled (parts.unique zero)
  · have token := (isSingle_iff.mp length).2.1
    rw [readToken_of_numberThen parts] at token
    cases token

theorem scaleSizing_of_losesLength (finite : sizing.isFinite = true) (positive : 0 < sizing)
    (loses : LosesLength (value ++ unit) sizing) :
    scaleSizing value unit sizing ∈ [value ++ unit, "infrem", "-infrem"] ∧
      ¬ IsZeroOrLength (scaleSizing value unit sizing) := by
  cases loses with
  | filler parts filled =>
    rw [scaleSizing_of_unread (unread_of_filler parts filled)]
    exact ⟨List.mem_cons_self, not_isZeroOrLength_of_filler parts filled⟩
  | overflow read beyond =>
    rcases scaleSizing_of_read read with product | ⟨-, rfl⟩
    · have words : ¬ IsZeroOrLength "infrem" ∧ ¬ IsZeroOrLength "-infrem" := by
        unfold IsZeroOrLength
        decide +kernel
      rw [product]
      rcases formatNumber_of_isInf beyond with word | word <;> rw [word]
      · exact ⟨List.mem_cons_of_mem _ List.mem_cons_self, words.1⟩
      · exact ⟨List.mem_cons_of_mem _ (List.mem_cons_of_mem _ List.mem_cons_self), words.2⟩
    · rw [Decimal.isInf_mul_zero finite positive] at beyond
      cases beyond

theorem isZeroOrLength_of_read (finite : sizing.isFinite = true) (positive : 0 < sizing)
    (read : numberValue (value ++ unit) = .ok x) (inside : (sizing * x).isInf = false) :
    IsZeroOrLength (scaleSizing value unit sizing) := by
  have number : (sizing * x).isNaN = false := by
    rw [Decimal.isNaN_mul finite positive]
    exact isNaN_of_numberValue read
  rcases scaleSizing_of_read read with product | ⟨zero, -⟩
  · rw [product]
    exact Or.inr ((isLength_formatNumber_iff number).mpr inside)
  · exact Or.inl zero

/-- A number is scaled to a zero or a length exactly if no filler stands behind it and the product does not
overflow. With filler it stays as it is, and an overflow is written as a word. What is no number stays as it
is. -/
theorem scaled_number_is_length_iff (value unit : String) (sizing : Float)
    (finite : sizing.isFinite = true) (positive : 0 < sizing) :
    (isNumber (value ++ unit) = true →
      (IsZeroOrLength (scaleSizing value unit sizing) ↔ ¬ LosesLength (value ++ unit) sizing) ∧
      (LosesLength (value ++ unit) sizing →
        scaleSizing value unit sizing ∈ [value ++ unit, "infrem", "-infrem"])) ∧
    (isNumber (value ++ unit) = false → scaleSizing value unit sizing = value ++ unit) := by
  refine ⟨fun number => ⟨⟨?_, ?_⟩, ?_⟩, ?_⟩
  · exact fun length loses => (scaleSizing_of_losesLength finite positive loses).2 length
  · intro keeps
    obtain ⟨x, read, inside⟩ := exists_finite_product number keeps
    exact isZeroOrLength_of_read finite positive read inside
  · exact fun loses => (scaleSizing_of_losesLength finite positive loses).1
  · intro other
    refine scaleSizing_of_unread fun x read => ?_
    rw [(exists_numberValue_iff.mp ⟨x, read⟩).1] at other
    cases other

/-- Four steps of the usual length. -/
theorem scaled_four_is_length :
    (0.25 : Float).isFinite = true ∧ (0 : Float) < 0.25 ∧ isNumber ("4" ++ "") = true ∧
    scaleSizing "4" "" 0.25 = "1rem" ∧ IsZeroOrLength "1rem" ∧ ¬ LosesLength ("4" ++ "") 0.25 := by
  have finite : (0.25 : Float).isFinite = true := by decide +kernel
  have positive : (0 : Float) < 0.25 := by decide +kernel
  have number : isNumber ("4" ++ "") = true := by decide +kernel
  have scaled : scaleSizing "4" "" 0.25 = "1rem" := by decide +kernel
  have length : IsZeroOrLength "1rem" := Or.inr (by decide +kernel)
  obtain ⟨lengthIff, -⟩ := (scaled_number_is_length_iff "4" "" 0.25 finite positive).1 number
  rw [scaled] at lengthIff
  exact ⟨finite, positive, number, scaled, length, lengthIff.mp length⟩

/-- A comment keeps a number from being scaled, and a product can be too large for a length. -/
theorem scaled_numbers_lose_length :
    isNumber ("4/**/" ++ "") = true ∧ scaleSizing "4/**/" "" 0.25 = "4/**/" ∧
    ¬ IsZeroOrLength "4/**/" ∧
    (1e308 : Float).isFinite = true ∧ (0 : Float) < 1e308 ∧ isNumber ("100" ++ "") = true ∧
    scaleSizing "100" "" 1e308 = "infrem" ∧ ¬ IsZeroOrLength "infrem" := by
  unfold IsZeroOrLength
  decide +kernel

end UtilityCss.Value
