/-!
# Finite numbers beside zero

A comparison with a number that is not finite may fail in both directions. A finite number is above zero
exactly if it is not at or below it, and both zeros count as zero.
-/
namespace UtilityCss.Decimal

open Float.Model (UnpackedFloat)

theorem le_iff_unpack {x y : Float} : x ≤ y ↔ x.toModel.unpack.le y.toModel.unpack = true :=
  decide_eq_true_iff

theorem lt_iff_unpack {x y : Float} : x < y ↔ x.toModel.unpack.lt y.toModel.unpack = true :=
  decide_eq_true_iff

/-- A finite number has a sign and is a zero or has a positive magnitude. -/
theorem le_zero_eq_not_zero_lt {x : UnpackedFloat} (finite : x.isFinite = true) :
    x.le (.zero .positive) = !(UnpackedFloat.zero .positive).lt x := by
  cases x with
  | infinity sign => cases finite
  | notANumber => cases finite
  | zero sign => rfl
  | finite sign mantissa exponent positive =>
    cases sign with
    | positive => rfl
    | negative => rfl

theorem not_le_zero_iff {x : Float} (finite : x.isFinite = true) : ¬ x ≤ 0.0 ↔ 0 < x := by
  have zero : (0.0 : Float).toModel.unpack = .zero .positive := rfl
  have zero' : (0 : Float).toModel.unpack = .zero .positive := rfl
  have compared := @le_zero_eq_not_zero_lt x.toModel.unpack finite
  rw [le_iff_unpack, lt_iff_unpack, zero, zero', compared]
  simp

end UtilityCss.Decimal
