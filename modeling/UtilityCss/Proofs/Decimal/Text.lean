import UtilityCss.Decimal.Text

/-!
# The characters of written numbers

A number without an exponent is written with digits, at most a point and a sign; the special values
are words. Nothing that separates items of a style sheet stands in it.
-/
namespace UtilityCss.Decimal

open UtilityCss.Text

/-- The characters that numbers are written with. -/
def isNumeralChar (c : Char) : Bool := isDigit c || isLetter c || c == '.' || c == '-'

theorem isNumeralChar_of_isDigit {c : Char} (h : isDigit c = true) : isNumeralChar c = true := by
  simp [isNumeralChar, h]

/-- A positional number consists of digits and at most a point. -/
theorem isNumeralChar_of_mem_positional {s : Scientific} {c : Char} (h : c ∈ s.positional) :
    isNumeralChar c = true := by
  have digit {d : Char} (hd : d ∈ digits s.coefficient) : isNumeralChar d = true :=
    isNumeralChar_of_isDigit (isDigit_of_mem_digits hd)
  have zero : isNumeralChar '0' = true := by decide
  have point : isNumeralChar '.' = true := by decide
  rw [Scientific.positional] at h
  dsimp only at h
  split at h
  · rcases List.mem_append.mp h with h | h
    · exact digit h
    · exact List.eq_of_mem_replicate h ▸ zero
  · split at h
    · rcases List.mem_append.mp h with h | h
      · exact digit (List.mem_of_mem_take h)
      · rcases List.mem_cons.mp h with rfl | h
        · exact point
        · exact digit (List.mem_of_mem_drop h)
    · simp only [List.cons_append, List.mem_cons, List.mem_append] at h
      rcases h with rfl | rfl | h | h
      · exact zero
      · exact point
      · exact List.eq_of_mem_replicate h ▸ zero
      · exact digit h

/-- Special values are words, and a sign stands in front of a number only. -/
theorem isNumeralChar_of_mem_plain {l : Layout} {b : Binary} {c : Char}
    (h : c ∈ (l.plain b).toList) : isNumeralChar c = true := by
  have ofWord {w : String} (all : w.toList.all isNumeralChar = true) (hw : c ∈ w.toList) :
      isNumeralChar c = true := List.all_eq_true.mp all c hw
  cases b with
  | nan => exact @ofWord "NaN" (by decide) h
  | infinite negative =>
    cases negative with
    | false => exact @ofWord "inf" (by decide) h
    | true => exact @ofWord "-inf" (by decide) h
  | finite negative m e =>
    rw [Layout.plain, Binary.written, String.toList_ofList] at h
    have body {d : Char}
        (hd : d ∈ if m = 0 then "0".toList else (l.shortest .larger m e).positional) :
        isNumeralChar d = true := by
      split at hd
      · exact (List.mem_singleton.mp hd) ▸ by decide
      · exact isNumeralChar_of_mem_positional hd
    cases negative with
    | false => exact body h
    | true =>
      rcases List.mem_cons.mp h with rfl | h
      · decide
      · exact body h

end UtilityCss.Decimal
