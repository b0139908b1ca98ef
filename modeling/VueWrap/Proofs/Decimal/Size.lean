import Mathlib.Algebra.Order.Ring.Nat
import Mathlib.Tactic.Ring
import VueWrap.Decimal.Double

/-! # The size of a floating-point number

Every finite number is a multiple of the least one above zero, and no two
exponents give the same multiple. So numbers that equal one integer equal each
other.
-/

namespace VueWrap.Double

variable {x y z : Double} {n : Int}

/-- The power of two that the mantissa is to be taken by, in units of the least number. -/
def shift (x : Double) : Nat := x.field - 1

/-- A number without its sign, in units of the least number. -/
def size (x : Double) : Nat := x.mantissa * 2 ^ x.shift

theorem exponent_eq (x : Double) : x.exponent = (x.shift : Int) - 1074 := by
  unfold exponent shift
  split <;> omega

theorem fraction_lt (x : Double) : x.fraction < 2 ^ 52 := Nat.mod_lt _ (Nat.two_pow_pos 52)

theorem magnitude_eq (x : Double) : x.magnitude = 2 ^ 52 * x.field + x.fraction :=
  (Nat.div_add_mod x.magnitude (2 ^ 52)).symm

theorem mantissa_of_field_eq (h : x.field = 0) : x.mantissa = x.fraction := if_pos h

theorem mantissa_of_field_ne (h : x.field ≠ 0) : x.mantissa = 2 ^ 52 + x.fraction := if_neg h

/-- A greater exponent makes a greater number. -/
theorem size_lt_size (h : x.field < y.field) : x.size < y.size := by
  have hfraction := x.fraction_lt
  have hy : 2 ^ 52 * 2 ^ y.shift ≤ y.size := by
    rw [size, mantissa_of_field_ne (by omega)]
    exact Nat.mul_le_mul_right _ (Nat.le_add_right _ _)
  refine Nat.lt_of_lt_of_le ?_ hy
  by_cases hx : x.field = 0
  · have hshift : x.shift = 0 := by rw [shift, hx]
    rw [size, mantissa_of_field_eq hx, hshift, Nat.pow_zero, Nat.mul_one]
    exact Nat.lt_of_lt_of_le hfraction (Nat.le_mul_of_pos_right _ (Nat.two_pow_pos _))
  · have hshift : x.shift + 1 ≤ y.shift := by
      unfold shift
      omega
    calc x.size = (2 ^ 52 + x.fraction) * 2 ^ x.shift := by rw [size, mantissa_of_field_ne hx]
      _ < 2 ^ 53 * 2 ^ x.shift := Nat.mul_lt_mul_of_pos_right (by omega) (Nat.two_pow_pos _)
      _ = 2 ^ 52 * 2 ^ (x.shift + 1) := by ring
      _ ≤ 2 ^ 52 * 2 ^ y.shift := Nat.mul_le_mul_left _ (Nat.pow_le_pow_right (by omega) hshift)

theorem magnitude_eq_of_size_eq (h : x.size = y.size) : x.magnitude = y.magnitude := by
  have hfield : x.field = y.field := by
    rcases Nat.lt_trichotomy x.field y.field with hlt | heq | hlt
    · exact absurd h (Nat.ne_of_lt (size_lt_size hlt))
    · exact heq
    · exact absurd h.symm (Nat.ne_of_lt (size_lt_size hlt))
  have hmantissa : x.mantissa = y.mantissa := by
    rw [size, size, shift, shift, hfield] at h
    exact Nat.eq_of_mul_eq_mul_right (Nat.two_pow_pos _) h
  have hfraction : x.fraction = y.fraction := by
    unfold mantissa at hmantissa
    rw [hfield] at hmantissa
    split at hmantissa
    · exact hmantissa
    · exact Nat.add_left_cancel hmantissa
  rw [magnitude_eq, magnitude_eq, hfield, hfraction]

theorem bits_eq (hsign : x.negative = y.negative) (h : x.magnitude = y.magnitude) :
    x.bits = y.bits := by
  have hx := x.bits.toNat_lt
  have hy := y.bits.toNat_lt
  have hpow : twoTo 63 = 2 ^ 63 := rfl
  simp only [negative, decide_eq_decide, hpow] at hsign
  simp only [magnitude, hpow] at h
  apply UInt64.toNat_inj.mp
  omega

theorem isZero_iff_size : x.isZero = true ↔ x.size = 0 := by
  have hpow := Nat.two_pow_pos x.shift
  rw [isZero, decide_eq_true_eq, magnitude_eq, size, Nat.mul_eq_zero]
  by_cases hx : x.field = 0
  · rw [mantissa_of_field_eq hx]
    omega
  · rw [mantissa_of_field_ne hx]
    omega

def units (x : Double) : Int := if x.negative then -x.size else x.size

theorem units_eq (x : Double) :
    x.units = (if x.negative then -x.mantissa else x.mantissa : Int) * 2 ^ x.shift := by
  unfold units size
  split <;> push_cast <;> ring

theorem natAbs_units (x : Double) : x.units.natAbs = x.size := by
  unfold units
  split <;> omega

theorem equalInt_iff : x.equalInt n = true ↔
    x.isNaN = false ∧ x.isInfinite = false ∧ x.units = n * 2 ^ 1074 := by
  simp only [equalInt, Bool.and_eq_true, Bool.not_eq_true', decide_eq_true_eq, and_assoc]
  refine and_congr_right fun _ => and_congr_right fun _ => ?_
  rw [units_eq, toQuotient]
  generalize (if x.negative then -x.mantissa else x.mantissa : Int) = m
  have hexponent := x.exponent_eq
  have hunit : ∀ k : Nat, (2 ^ k : Int) ≠ 0 := fun k => pow_ne_zero k two_ne_zero
  split
  · have hshift : x.shift = x.exponent.toNat + 1074 := by omega
    have hcast : ((twoTo x.exponent.toNat : Nat) : Int) = 2 ^ x.exponent.toNat :=
      Nat.cast_pow 2 x.exponent.toNat
    rw [hcast, hshift, pow_add, ← mul_assoc, mul_left_inj' (hunit 1074), Nat.cast_one, mul_one]
  · have hshift : 2 ^ (-x.exponent).toNat * 2 ^ x.shift = (2 ^ 1074 : Int) := by
      rw [← pow_add]
      congr 1
      omega
    have hcast : ((twoTo (-x.exponent).toNat : Nat) : Int) = 2 ^ (-x.exponent).toNat :=
      Nat.cast_pow 2 (-x.exponent).toNat
    rw [hcast, ← hshift, ← mul_assoc, mul_left_inj' (hunit x.shift)]

theorem equal_iff : x.equal y = true ↔
    x.isNaN = false ∧ y.isNaN = false ∧ (x = y ∨ x.isZero = true ∧ y.isZero = true) := by
  have hbits : x.bits = y.bits ↔ x = y := ⟨fun h => by cases x; cases y; cases h; rfl, congrArg _⟩
  simp only [equal, Bool.and_eq_true, Bool.or_eq_true, Bool.not_eq_true', decide_eq_true_eq, hbits,
    and_assoc]

theorem not_infinite_of_isZero (h : x.isZero = true) : x.isInfinite = false := by
  have hzero : x.magnitude = 0 := of_decide_eq_true h
  have hfield : x.field = 0 := by rw [field, hzero, Nat.zero_div]
  simp [isInfinite, hfield]

theorem units_eq_zero_iff : x.units = 0 ↔ x.isZero = true := by
  rw [isZero_iff_size, ← natAbs_units, Int.natAbs_eq_zero]

/-- An integer that a number equals is the only one. -/
theorem eq_of_equalInt {m n : Int} (hm : x.equalInt m = true) (hn : x.equalInt n = true) :
    m = n := by
  have h := (equalInt_iff.mp hm).2.2.symm.trans (equalInt_iff.mp hn).2.2
  exact mul_right_cancel₀ (pow_ne_zero 1074 two_ne_zero) h

/-- Numbers that equal one integer equal each other. -/
theorem equal_of_equalInt (hx : x.equalInt n = true) (hy : y.equalInt n = true) :
    x.equal y = true := by
  obtain ⟨hxnan, -, hxn⟩ := equalInt_iff.mp hx
  obtain ⟨hynan, -, hyn⟩ := equalInt_iff.mp hy
  have hunits : x.units = y.units := hxn.trans hyn.symm
  refine equal_iff.mpr ⟨hxnan, hynan, ?_⟩
  by_cases hzero : x.isZero = true
  · exact Or.inr ⟨hzero, units_eq_zero_iff.mp (hunits ▸ units_eq_zero_iff.mpr hzero)⟩
  · have hsize : x.size = y.size := by rw [← natAbs_units, ← natAbs_units, hunits]
    have hpos : x.size ≠ 0 := mt isZero_iff_size.mpr hzero
    have hsign : x.negative = y.negative := by
      unfold units at hunits
      cases hx : x.negative <;> cases hy : y.negative <;>
        simp only [hx, hy, Bool.false_eq_true, if_true, if_false] at hunits
      · rfl
      · omega
      · omega
      · rfl
    have hbits := bits_eq hsign (magnitude_eq_of_size_eq hsize)
    cases x
    cases y
    exact Or.inl (congrArg _ hbits)

theorem equalInt_of_equal (h : x.equal y = true) (hx : x.equalInt n = true) :
    y.equalInt n = true := by
  obtain ⟨-, hynan, rfl | ⟨hxzero, hyzero⟩⟩ := equal_iff.mp h
  · exact hx
  · refine equalInt_iff.mpr ⟨hynan, not_infinite_of_isZero hyzero, ?_⟩
    rw [units_eq_zero_iff.mpr hyzero, ← (equalInt_iff.mp hx).2.2, units_eq_zero_iff.mpr hxzero]

theorem equal_comm : x.equal y = true ↔ y.equal x = true := by
  rw [equal_iff, equal_iff, and_left_comm, @eq_comm _ x y, @and_comm (x.isZero = true)]

theorem equal_trans (hxy : x.equal y = true) (hyz : y.equal z = true) : x.equal z = true := by
  obtain ⟨hx, -, h⟩ := equal_iff.mp hxy
  obtain ⟨-, hz, h'⟩ := equal_iff.mp hyz
  refine equal_iff.mpr ⟨hx, hz, ?_⟩
  rcases h with rfl | ⟨hx, hy⟩
  · exact h'
  · rcases h' with rfl | ⟨-, hz⟩
    · exact Or.inr ⟨hx, hy⟩
    · exact Or.inr ⟨hx, hz⟩

end VueWrap.Double
