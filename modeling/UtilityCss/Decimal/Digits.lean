import UtilityCss.Text.Ascii

/-!
# Decimal digits of natural numbers

The digits of a number without leading zeros, and their count. Zero has the one digit zero but the length
zero, so that the length is the position of the leading digit.
-/
namespace UtilityCss.Decimal

open UtilityCss.Text

/-- A power of ten. -/
def tenTo (n : Nat) : Nat := Nat.pow 10 n

/-- The number of digits behind which only leading zeros follow. -/
def length (n : Nat) : Nat :=
  if n = 0 then 0 else length (n / 10) + 1
termination_by n
decreasing_by omega

/-- The digits of a number, first digit first. -/
def digits (n : Nat) : List Char :=
  if n < 10 then [digitChar n] else digits (n / 10) ++ [digitChar (n % 10)]
termination_by n
decreasing_by omega

theorem digits_ne_nil (n : Nat) : digits n ≠ [] := by
  unfold digits
  split <;> simp

theorem isDigit_of_mem_digits {n : Nat} {c : Char} (h : c ∈ digits n) : isDigit c = true := by
  fun_induction digits n with
  | case1 n hn =>
    rw [List.mem_singleton] at h
    exact h ▸ isDigit_digitChar n hn
  | case2 n hn ih =>
    rw [List.mem_append, List.mem_singleton] at h
    rcases h with h | h
    · exact ih h
    · exact h ▸ isDigit_digitChar _ (Nat.mod_lt n (by omega))

example : digits 1024 = "1024".toList ∧ length 1024 = 4 ∧ length 0 = 0 := by decide +kernel

end UtilityCss.Decimal
