import UtilityCss.Color.Literal
import UtilityCss.Proofs.Value.Numeric

/-!
# Colors that start like numbers

Names, functions and keywords start with a letter, so a color that starts like a number is a hexadecimal
literal. A literal without a mark in front counts if it is not made of digits alone, and a plus sign may
stand in the place of the first digit of a pair.
-/
namespace UtilityCss.Color

open UtilityCss.Text UtilityCss.Value

variable {cs r word : List Char} {c high low : Char} {text : String}

/-! ## Hexadecimal literals -/

/-- Digit pairs, in which a plus sign may stand in the place of the first digit. -/
def PairsUp : List Char → Prop
  | [] => True
  | [_] => False
  | high :: low :: r => (isHexDigit high = true ∨ high = '+') ∧ isHexDigit low = true ∧ PairsUp r

theorem isSome_byteDigit?_iff : (byteDigit? c).isSome ↔ isHexDigit c = true := by
  simp [byteDigit?, isHexDigit]

theorem isSome_bytePair?_iff : (bytePair? high low).isSome ↔
    (isHexDigit high = true ∨ high = '+') ∧ isHexDigit low = true := by
  by_cases plus : high = '+'
  · cases given : hexValue? low <;> simp [bytePair?, isHexDigit, plus, given]
  · cases given : hexValue? high <;> cases given' : hexValue? low <;>
      simp [bytePair?, isHexDigit, plus, given, given']

theorem any_const {α : Type} (x : Option α) (b : Bool) : x.any (fun _ => b) = (x.isSome && b) := by
  cases x <;> rfl

/-- A literal has three or four digits, or three or four digit pairs. -/
theorem isSome_hexLiteral?_iff : (hexLiteral? cs).isSome ↔
    (cs.length = 3 ∨ cs.length = 4) ∧ (∀ c ∈ cs, isHexDigit c = true) ∨
    (cs.length = 6 ∨ cs.length = 8) ∧ PairsUp cs := by
  match cs with
  | [r, g, b] => simp [hexLiteral?, Option.isSome_bind, any_const, isSome_byteDigit?_iff]
  | [r, g, b, a] => simp [hexLiteral?, Option.isSome_bind, any_const, isSome_byteDigit?_iff]
  | [r, s, g, h, b, c] =>
    simp [hexLiteral?, Option.isSome_bind, any_const, isSome_bytePair?_iff, PairsUp, and_assoc]
  | [r, s, g, h, b, c, a, e] =>
    simp [hexLiteral?, Option.isSome_bind, any_const, isSome_bytePair?_iff, PairsUp, and_assoc]
  | [] | [_] | [_, _] | [_, _, _, _, _] | [_, _, _, _, _, _, _] => simp [hexLiteral?]
  | _ :: _ :: _ :: _ :: _ :: _ :: _ :: _ :: _ :: rest => simp [hexLiteral?]

/-- The characters of hexadecimal literals. -/
def isHexOrPlus (c : Char) : Bool := isHexDigit c || c == '+'

theorem isHexOrPlus_of_pairsUp (pairs : PairsUp cs) : ∀ c ∈ cs, isHexOrPlus c = true := by
  fun_induction PairsUp cs with
  | case1 => nofun
  | case2 => cases pairs
  | case3 high low r ih =>
    obtain ⟨first, second, more⟩ := pairs
    have high : isHexOrPlus high = true := by simpa [isHexOrPlus] using first
    have low : isHexOrPlus low = true := by simp [isHexOrPlus, second]
    exact List.forall_mem_cons.mpr ⟨high, List.forall_mem_cons.mpr ⟨low, ih more⟩⟩

/-- An even number of digits makes pairs. -/
theorem pairsUp_of_digits (digits : ∀ c ∈ cs, isHexDigit c = true) (even : cs.length % 2 = 0) :
    PairsUp cs := by
  fun_induction PairsUp cs with
  | case1 => trivial
  | case2 => cases even
  | case3 high low r ih =>
    obtain ⟨first, second, more⟩ := by simpa only [List.forall_mem_cons] using digits
    exact ⟨Or.inl first, second, ih more (by simp only [List.length_cons] at even; omega)⟩

theorem isHexOrPlus_of_isSome (hex : (hexLiteral? cs).isSome) : ∀ c ∈ cs, isHexOrPlus c = true := by
  rcases isSome_hexLiteral?_iff.mp hex with ⟨-, digits⟩ | ⟨-, pairs⟩
  · intro c inside
    simp [isHexOrPlus, digits c inside]
  · exact isHexOrPlus_of_pairsUp pairs

/-! ## Words start with a letter -/

theorem of_startsNumber (start : startsNumber c = true) : isLetter c = false ∧ lowerChar c = c := by
  have ascii : c.toNat < 128 := by
    simp only [startsNumber, Bool.or_eq_true, beq_iff_eq] at start
    rcases start with ((digit | rfl) | rfl) | rfl
    · exact toNat_lt_of_isHexDigit (isHexDigit_of_isDigit digit)
    all_goals decide
  revert start
  exact of_ascii (P := fun c => startsNumber c = true → isLetter c = false ∧ lowerChar c = c)
    (by decide +kernel) ascii

/-- A word that starts with a letter does not begin a text that starts like a number. -/
theorem not_prefix_of_startsNumber (start : startsNumber c = true)
    (letter : word.head?.any isLetter = true) : ¬ word <+: lower (c :: r) := by
  obtain ⟨noLetter, same⟩ := of_startsNumber start
  cases word with
  | nil => cases letter
  | cons l w =>
    rintro ⟨t, whole⟩
    have first : l = c := by
      rw [lower, List.map_cons, same] at whole
      exact (List.cons.inj whole).1
    rw [first] at letter
    simp [noLetter] at letter

theorem letter_of_mem_colorKeywords : ∀ k ∈ colorKeywords, k.toList.head?.any isLetter = true := by
  decide

theorem letter_of_mem_colorFunctions : ∀ f ∈ colorFunctions, f.toList.head?.any isLetter = true := by
  decide

theorem letter_of_mem_namedColors : ∀ e ∈ namedColors, e.1.toList.head?.any isLetter = true := by
  decide +kernel

theorem letter_of_function? {name : String} (known : (function? name).isSome) :
    name.toList.head?.any isLetter = true := by
  unfold function? at known
  split at known
  all_goals first | decide | cases known

theorem named?_of_startsNumber (start : startsNumber c = true) : named? (c :: r) = none := by
  rw [named?, Option.map_eq_none_iff, List.lookup_eq_none_iff]
  intro e inside
  rw [bne_iff_ne]
  intro same
  refine not_prefix_of_startsNumber (r := r) start (letter_of_mem_namedColors e inside) ?_
  rw [← same, String.toList_ofList]

/-- No function has a name that begins a text that starts like a number. -/
theorem evaluate?_of_startsNumber {name arguments : List Char} (start : startsNumber c = true)
    (front : name <+: c :: r) : evaluate? name arguments = none := by
  have unknown : function? (String.ofList (lower name)) = none := by
    rw [← Option.not_isSome_iff_eq_none]
    intro known
    have letter := letter_of_function? known
    rw [String.toList_ofList] at letter
    exact not_prefix_of_startsNumber start letter (front.map lowerChar)
  unfold evaluate?
  split
  · next rest _ => cases alpha? rest <;> simp [unknown]
  · rfl

theorem front_of_splitFunction? {name arguments : List Char}
    (split : splitFunction? cs = some (name, arguments)) : name <+: cs := by
  unfold splitFunction? at split
  split at split
  · cases split
    exact ((trimEnd_isPrefix _ _).trans (List.takeWhile_prefix _)).trans (List.dropLast_prefix _)
  · cases split

theorem opened_of_splitFunction? {parts : List Char × List Char}
    (split : splitFunction? cs = some parts) : '(' ∈ cs := by
  unfold splitFunction? at split
  split at split
  · next call => exact (by simpa using call : '(' ∈ cs ∧ _).1
  · cases split

/-- What starts like a number is read as hexadecimal. -/
theorem literal?_of_startsNumber (trimmed : Trimmed isBlank text.toList)
    (first : text.toList = c :: r) (start : startsNumber c = true) :
    literal? text = hexLiteral? (c :: r) := by
  have noWord : sameIgnoringCase (c :: r) "transparent".toList = false := by
    rw [Bool.eq_false_iff]
    intro same
    have front : "transparent".toList <+: lower (c :: r) := by
      rw [beq_iff_eq.mp same]
      decide
    exact not_prefix_of_startsNumber start (by decide) front
  have noHash : ((c :: r).head? == some '#') = false := by
    rw [Bool.eq_false_iff]
    intro same
    cases beq_iff_eq.mp same
    cases start
  rw [literal?, trim_eq_self trimmed, first, noWord, noHash]
  simp only [if_false, Bool.false_eq_true]
  split
  · next name arguments split =>
    have noHex : hexLiteral? (c :: r) = none := by
      rw [← Option.not_isSome_iff_eq_none]
      intro hex
      exact absurd (isHexOrPlus_of_isSome hex '(' (opened_of_splitFunction? split)) (by decide)
    rw [evaluate?_of_startsNumber start (front_of_splitFunction? split), noHex]
  · simp [named?_of_startsNumber start]

/-- What starts like a number is a color if it has digit pairs, and not digits alone. -/
theorem isColorOrKeyword_iff_of_startsNumber (trimmed : Trimmed isBlank text.toList)
    (first : text.toList = c :: r) (start : startsNumber c = true) :
    isColorOrKeyword text = true ↔
      ¬ (∀ a ∈ text.toList, isHexDigit a = true) ∧ (hexLiteral? text.toList).isSome := by
  have noKeyword : colorKeywords.contains text = false := by
    rw [Bool.eq_false_iff, ne_eq, List.contains_iff_mem]
    intro known
    have letter := letter_of_mem_colorKeywords text known
    rw [first] at letter
    simp [(of_startsNumber start).1] at letter
  have noFunction : colorFunctions.any (fun f => f.toList.isPrefixOf (lower text.toList)) = false := by
    rw [List.any_eq_false]
    intro f known
    rw [List.isPrefixOf_iff_prefix, first]
    exact not_prefix_of_startsNumber start (letter_of_mem_colorFunctions f known)
  rw [isColorOrKeyword, noKeyword, Bool.false_or, isColor,
    literal?_of_startsNumber trimmed first start, ← first]
  simp [noFunction]

end UtilityCss.Color
