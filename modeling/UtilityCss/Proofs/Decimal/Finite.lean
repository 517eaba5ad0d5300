import UtilityCss.Decimal.Reading
import UtilityCss.Proofs.Decimal.Order

/-!
# Numbers, finite and infinite

A read decimal is a number, and a product with a finite factor that is not zero is one if the other factor is.
A number is either finite or infinite, and its pattern shows which. Nothing is claimed about the amount of
a product.
-/
namespace UtilityCss.Decimal

open Float.Model (UnpackedFloat)
open Float.Model.UnpackedFloat

variable {x y : Float} {s : Sign} {m : Nat} {e : Int} {pos : 0 < m}

/-! ## Results of operations -/

/-- A number that is finite is neither of the two others. -/
theorem not_special_of_isFinite {f : UnpackedFloat} (finite : f.isFinite = true) :
    f.isNaN = false ∧ f.isInf = false := by
  cases f with
  | infinity s => cases finite
  | notANumber => cases finite
  | zero s => exact ⟨rfl, rfl⟩
  | finite s m e pos => exact ⟨rfl, rfl⟩

/-- Without all ones in the exponent a pattern is finite. -/
theorem isFinite_unpack {bits : BitVec 64} (below : @unpackExponent .binary64 bits ≠ -1#11) :
    (unpack .binary64 bits).isFinite = true := by
  unfold Float.Model.UnpackedFloat.unpack
  rw [if_neg below]
  by_cases small : @unpackExponent .binary64 bits = 0#11
  · rw [if_pos small]
    by_cases empty : @unpackMantissa .binary64 bits = 0#52
    · rw [dif_pos empty]
      rfl
    · rw [dif_neg empty]
      rfl
  · rw [if_neg small]
    rfl

theorem unpack_of_ones {bits : BitVec 64} (ones : @unpackExponent .binary64 bits = -1#11) :
    unpack .binary64 bits = if @unpackMantissa .binary64 bits = 0#52 then
      .infinity (.ofBitVec (@unpackSign .binary64 bits)) else .notANumber := by
  unfold Float.Model.UnpackedFloat.unpack
  rw [if_pos ones]

theorem isNaN_unpack_packComponents {exponent : BitVec 11} {mantissa : BitVec 52}
    (below : exponent ≠ -1#11) :
    (unpack .binary64 (packComponents .binary64 s exponent mantissa)).isNaN = false := by
  refine (not_special_of_isFinite (isFinite_unpack ?_)).1
  rw [unpackExponent_packComponents]
  exact below

/-- Packing keeps numbers numbers, also where they overflow. -/
theorem isNaN_unpack_pack (f : UnpackedFloat) :
    (unpack .binary64 (pack .binary64 f)).isNaN = f.isNaN := by
  fun_cases pack .binary64 f with
  | case1 => rfl
  | case2 s => cases s <;> rfl
  | case3 s => cases s <;> rfl
  | case4 s m e pos biased large => cases s <;> rfl
  | case5 s m e pos log biased small normal =>
    refine isNaN_unpack_packComponents fun ones => ?_
    have below : biased + 1 < 2048 := Nat.lt_of_not_le small
    have same : biased % 2048 = 2047 := congrArg BitVec.toNat ones
    omega
  | case6 s m e pos log biased small subnormal => exact isNaN_unpack_packComponents (by decide)

theorem isNaN_roundWithAccuracy (s : Sign) (m : Nat) (e : Int) (a : Accuracy) :
    (roundWithAccuracy .binary64 s m e a).isNaN = false := by
  fun_cases roundWithAccuracy .binary64 s m e a with
  | case1 => rfl
  | case2 => rfl

theorem isNaN_finite_mul (f : UnpackedFloat) :
    (mul .binary64 (.finite s m e pos) f).isNaN = f.isNaN := by
  cases f with
  | infinity s => rfl
  | notANumber => rfl
  | zero s => rfl
  | finite s m e pos => exact isNaN_roundWithAccuracy _ _ _ _

theorem isNaN_mul_finite (f : UnpackedFloat) :
    (mul .binary64 f (.finite s m e pos)).isNaN = f.isNaN := by
  cases f with
  | infinity s => rfl
  | notANumber => rfl
  | zero s => rfl
  | finite s m e pos => exact isNaN_roundWithAccuracy _ _ _ _

theorem isNaN_div_finite (f : UnpackedFloat) :
    (div .binary64 f (.finite s m e pos)).isNaN = f.isNaN := by
  cases f with
  | infinity s => rfl
  | notANumber => rfl
  | zero s => rfl
  | finite s m e pos => exact isNaN_roundWithAccuracy _ _ _ _

theorem isNaN_normalize (m e : Int) (s : Sign) :
    (UnpackedFloat.normalize .binary64 m e s).isNaN = false := by
  fun_cases UnpackedFloat.normalize .binary64 m e s with
  | case1 => exact isNaN_roundWithAccuracy _ _ _ _
  | case2 => rfl
  | case3 => exact isNaN_roundWithAccuracy _ _ _ _

theorem isNaN_unpacked_ofScientific (m : Nat) (e : Int) :
    (UnpackedFloat.ofScientific .binary64 m e).isNaN = false := by
  fun_cases UnpackedFloat.ofScientific .binary64 m e with
  | case1 => rfl
  | case2 => rfl
  | case3 => rfl
  | case4 => exact isNaN_finite_mul _
  | case5 => exact isNaN_div_finite _

/-! ## Products and signs -/

theorem exists_unpack_of_pos (finite : x.isFinite = true) (positive : 0 < x) :
    ∃ m e pos, x.toModel.unpack = .finite .positive m e pos := by
  have zero : (0 : Float).toModel.unpack = .zero .positive := rfl
  have finite : x.toModel.unpack.isFinite = true := finite
  rw [lt_iff_unpack, zero] at positive
  generalize x.toModel.unpack = f at finite positive
  cases f with
  | infinity s => cases finite
  | notANumber => cases finite
  | zero s => cases positive
  | finite s m e pos =>
    cases s with
    | positive => exact ⟨m, e, pos, rfl⟩
    | negative => cases positive

theorem isNaN_mul (finite : x.isFinite = true) (positive : 0 < x) : (x * y).isNaN = y.isNaN := by
  obtain ⟨m, e, pos, given⟩ := exists_unpack_of_pos finite positive
  calc (x * y).isNaN
      = (mul .binary64 x.toModel.unpack y.toModel.unpack).isNaN := isNaN_unpack_pack _
    _ = y.isNaN := by rw [given, isNaN_finite_mul]; rfl

theorem isNaN_neg (x : Float) : (-x).isNaN = x.isNaN := by
  have negated : x.toModel.unpack.neg.isNaN = x.toModel.unpack.isNaN := by
    cases x.toModel.unpack <;> rfl
  exact (isNaN_unpack_pack _).trans negated

/-- A product with zero does not overflow. -/
theorem isInf_mul_zero (finite : x.isFinite = true) (positive : 0 < x) :
    (x * 0.0).isInf = false := by
  obtain ⟨m, e, pos, given⟩ := exists_unpack_of_pos finite positive
  have zero : (0.0 : Float).toModel.unpack = .zero .positive := rfl
  have product : mul .binary64 x.toModel.unpack (0.0 : Float).toModel.unpack = .zero .positive := by
    rw [given, zero]
    rfl
  show (unpack .binary64 (pack .binary64 (mul .binary64 _ _))).isInf = false
  rw [product]
  rfl

/-! ## Read numbers -/

/-- The powers of ten that are held exactly. -/
theorem exact_power_is_positive : ∀ (n : Nat) (h : n < Float.exactlyRepresentablePowersOfTen.size),
    (Float.exactlyRepresentablePowersOfTen[n]).isFinite = true ∧
    0 < Float.exactlyRepresentablePowersOfTen[n] := by
  decide +kernel

theorem isNaN_ofScientific (m : Nat) (below : Bool) (n : Nat) :
    (Float.ofScientific m below n).isNaN = false := by
  have whole : m.toUInt64.toFloat.toModel.unpack.isNaN = false :=
    (isNaN_unpack_pack _).trans (isNaN_normalize _ _ _)
  unfold Float.ofScientific
  split
  · next small =>
    -- the coefficient is held exactly, and one operation with a power of ten remains
    have held : n < Float.exactlyRepresentablePowersOfTen.size := Nat.lt_succ_of_le small.2
    obtain ⟨finite, positive⟩ := exact_power_is_positive n held
    obtain ⟨k, f, pos, given⟩ := exists_unpack_of_pos finite positive
    dsimp only
    split
    · refine (isNaN_unpack_pack _).trans ?_
      show (div .binary64 _ _).isNaN = false
      rw [given, isNaN_div_finite, whole]
    · refine (isNaN_unpack_pack _).trans ?_
      show (mul .binary64 _ _).isNaN = false
      rw [given, isNaN_mul_finite, whole]
  · exact (isNaN_unpack_pack _).trans (isNaN_unpacked_ofScientific _ _)

theorem Scientific.isNaN_toFloat (s : Scientific) : s.toFloat.isNaN = false := by
  unfold Scientific.toFloat
  split
  · decide +kernel
  · split
    · decide +kernel
    · exact isNaN_ofScientific _ _ _

/-- A decimal is read as a number. -/
theorem Numeral.isNaN_toFloat_finite (negative : Bool) (s : Scientific) :
    (Numeral.finite negative s).toFloat.isNaN = false := by
  cases negative with
  | false => exact s.isNaN_toFloat
  | true => exact (isNaN_neg _).trans s.isNaN_toFloat

/-! ## Patterns -/

theorem isFinite_of_number (number : x.isNaN = false) (inside : x.isInf = false) :
    x.isFinite = true := by
  have number : x.toModel.unpack.isNaN = false := number
  have inside : x.toModel.unpack.isInf = false := inside
  show x.toModel.unpack.isFinite = true
  generalize x.toModel.unpack = f at number inside
  cases f with
  | infinity s => cases inside
  | notANumber => cases number
  | zero s => rfl
  | finite s m e pos => rfl

theorem toNat_unpackExponent (bits : BitVec 64) :
    (@unpackExponent .binary64 bits).toNat = bits.toNat / twoTo 52 % twoTo 11 := by
  simp [unpackExponent, Nat.shiftRight_eq_div_pow, twoTo]

theorem toNat_unpackMantissa (bits : BitVec 64) :
    (@unpackMantissa .binary64 bits).toNat = bits.toNat % twoTo 52 := by
  simp [unpackMantissa, twoTo]

/-- All ones in the exponent and an empty fraction. -/
theorem exists_decode_infinite {l : Layout} {bits : Nat}
    (ones : bits / twoTo l.fractionBits % twoTo l.exponentBits + 1 = twoTo l.exponentBits)
    (empty : bits % twoTo l.fractionBits = 0) : ∃ negative, l.decode bits = .infinite negative := by
  unfold Layout.decode
  exact ⟨_, by rw [if_pos ones, if_pos empty]⟩

theorem exists_decode_finite {l : Layout} {bits : Nat}
    (below : bits / twoTo l.fractionBits % twoTo l.exponentBits + 1 ≠ twoTo l.exponentBits) :
    ∃ negative m e, l.decode bits = .finite negative m e := by
  unfold Layout.decode
  simp only [below, if_false]
  split
  · exact ⟨_, _, _, rfl⟩
  · exact ⟨_, _, _, rfl⟩

theorem exists_ofFloat_of_isFinite (finite : x.isFinite = true) :
    ∃ negative m e, Binary.ofFloat x = .finite negative m e := by
  refine exists_decode_finite fun ones => ?_
  have exponent : @unpackExponent .binary64 x.toBits.toBitVec = -1#11 := by
    refine BitVec.eq_of_toNat_eq ?_
    rw [toNat_unpackExponent]
    exact Nat.succ.inj ones
  have finite : (unpack .binary64 x.toBits.toBitVec).isFinite = true := finite
  rw [unpack_of_ones exponent] at finite
  split at finite <;> cases finite

theorem exists_ofFloat_of_isInf (infinite : x.isInf = true) :
    ∃ negative, Binary.ofFloat x = .infinite negative := by
  have infinite : (unpack .binary64 x.toBits.toBitVec).isInf = true := infinite
  by_cases ones : @unpackExponent .binary64 x.toBits.toBitVec = -1#11
  · rw [unpack_of_ones ones] at infinite
    split at infinite
    · next empty =>
      have exponent := congrArg BitVec.toNat ones
      have fraction := congrArg BitVec.toNat empty
      rw [toNat_unpackExponent] at exponent
      rw [toNat_unpackMantissa] at fraction
      exact exists_decode_infinite (congrArg Nat.succ exponent) fraction
    · cases infinite
  · rw [(not_special_of_isFinite (isFinite_unpack ones)).2] at infinite
    cases infinite

end UtilityCss.Decimal
