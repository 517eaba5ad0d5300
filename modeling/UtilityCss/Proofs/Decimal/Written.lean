import UtilityCss.Decimal.Text
import UtilityCss.Proofs.Decimal.Finite
import UtilityCss.Proofs.Decimal.Plain

/-!
# Written numbers

A finite number is written as a plain decimal, with a minus sign or none, however large or small it is. An
infinite number is written as a word.
-/
namespace UtilityCss.Decimal

open UtilityCss.Text

variable {x : Float}

theorem isDigits_digits (n : Nat) : IsDigits (digits n) :=
  ⟨digits_ne_nil n, fun _ => isDigit_of_mem_digits⟩

theorem isDigit_of_mem_zeros {n : Nat} : ∀ c ∈ List.replicate n '0', isDigit c = true := by
  intro c inside
  rw [List.eq_of_mem_replicate inside]
  decide

theorem isDigits_zero : IsDigits ['0'] :=
  ⟨List.cons_ne_nil _ _, List.forall_mem_singleton.mpr (by decide)⟩

/-- Zeros are filled in where the digits do not reach the point. -/
theorem isPlain_positional (s : Scientific) : IsPlain s.positional := by
  obtain ⟨filled, all⟩ := isDigits_digits s.coefficient
  rw [Scientific.positional]
  dsimp only
  split
  · refine .whole ⟨by simp [filled], ?_⟩
    exact List.forall_mem_append.mpr ⟨all, isDigit_of_mem_zeros⟩
  · split
    · next whole =>
      refine .fraction (fun c inside => all c (List.mem_of_mem_take inside))
        ⟨?_, fun c inside => all c (List.mem_of_mem_drop inside)⟩
      rw [ne_eq, List.drop_eq_nil_iff]
      omega
    · refine @IsPlain.fraction ['0'] _ isDigits_zero.2 ⟨by simp [filled], ?_⟩
      exact List.forall_mem_append.mpr ⟨isDigit_of_mem_zeros, all⟩

/-- Nothing but a sign stands in front of the decimal of a finite number. -/
theorem exists_plain_of_isFinite (finite : x.isFinite = true) :
    ∃ sign number, IsSign sign ∧ IsPlain number ∧ (ofFloat x).toList = sign ++ number := by
  obtain ⟨negative, m, e, pattern⟩ := exists_ofFloat_of_isFinite finite
  have body : IsPlain
      (if m = 0 then "0".toList else (Layout.double.shortest .larger m e).positional) := by
    split
    · exact .whole isDigits_zero
    · exact isPlain_positional _
  rw [ofFloat, pattern, Layout.plain, Binary.written, String.toList_ofList]
  cases negative with
  | false => exact ⟨_, _, .absent, body, rfl⟩
  | true => exact ⟨_, _, .minus, body, rfl⟩

theorem ofFloat_of_isInf (infinite : x.isInf = true) : ofFloat x = "inf" ∨ ofFloat x = "-inf" := by
  obtain ⟨negative, pattern⟩ := exists_ofFloat_of_isInf infinite
  rw [ofFloat, pattern]
  cases negative with
  | false => exact Or.inl rfl
  | true => exact Or.inr rfl

end UtilityCss.Decimal
