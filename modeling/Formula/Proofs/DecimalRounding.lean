import Formula.Decimal
import Formula.Proofs.ClosestMagnitudes

namespace Formula

namespace Double

variable {q : ℚ} {a b c e n : Nat}

/-- The infinities stand at a power of two, and the last finite number is less by a power of two.
The exponents are named, since the powers are too large to be computed on the way. -/
theorem units_last : ∃ n k, n = 1024 ∧ k = 971 ∧ units infinity = 2 ^ n * unitsPerOne ∧
    units (infinity - 1) + 2 ^ k * unitsPerOne = units infinity := by
  obtain ⟨one, hone, power⟩ := unitsPerOne_eq
  obtain ⟨n, hn⟩ : ∃ n, n = 1024 := ⟨_, rfl⟩
  obtain ⟨k, hk⟩ : ∃ k, k = 971 := ⟨_, rfl⟩
  obtain ⟨last, hlast⟩ : ∃ last, last = 2045 := ⟨_, rfl⟩
  have top : infinity = last * 2 ^ 52 + 2 ^ 53 := by
    subst hlast
    rfl
  have step : units (last * 2 ^ 52 + (2 ^ 53 - 1) + 1) = _ := units_succ (by omega) (by omega)
  have first : units (last * 2 ^ 52 + 2 ^ 53) = _ := units_block_le (Nat.le_refl _) (by omega)
  have before : last * 2 ^ 52 + (2 ^ 53 - 1) = infinity - 1 := by omega
  have behind : infinity - 1 + 1 = infinity := by omega
  rw [before, behind] at step
  rw [← top, ← Nat.pow_add] at first
  refine ⟨n, k, hn, hk, ?_, ?_⟩
  · rw [first, power, Nat.pow_eq, ← Nat.pow_add, show 53 + last = n + one by omega]
  · rw [step, power, Nat.pow_eq, ← Nat.pow_add, show k + one = last by omega]

/-- The infinities are reached at the midpoint behind the last finite number. -/
theorem isClosest_infinity_iff :
    IsClosest q infinity ↔ (units (infinity - 1) + units infinity : ℚ) ≤ 2 * q := by
  have even : Even infinity := ⟨2047 * 2 ^ 51, rfl⟩
  rw [isClosest_iff]
  constructor
  · intro ⟨_, above, _⟩
    exact (above (infinity - 1) rfl).1
  · refine fun le => ⟨Nat.le_refl _, fun b hb => ?_, fun lt => absurd lt (Nat.lt_irrefl _)⟩
    obtain rfl : b = infinity - 1 := by omega
    exact ⟨le, fun _ => even⟩

/-- Up to half a unit everything is rounded to zero. -/
theorem isClosest_zero (h : 2 * q ≤ 1) : IsClosest q 0 := by
  refine isClosest_iff.mpr ⟨Nat.zero_le _, fun b hb => by omega, fun _ => ⟨?_, fun _ => .zero⟩⟩
  rw [units_zero, units_one]
  push_cast
  linarith

/-- A power of ten exceeds that of eight. -/
theorem two_pow_le_ten_pow (h : a ≤ 3 * b) : 2 ^ a ≤ 10 ^ b :=
  calc
    2 ^ a ≤ 2 ^ (3 * b) := Nat.pow_le_pow_right two_pos h
    _ = 8 ^ b := Nat.pow_mul 2 3 b
    _ ≤ 10 ^ b := Nat.pow_le_pow_left (by simp) b

theorem units_infinity_le (h : 400 < e) : units infinity ≤ 10 ^ e * unitsPerOne := by
  obtain ⟨n, k, hn, -, top, -⟩ := units_last
  rw [top]
  exact Nat.mul_le_mul_right _ (two_pow_le_ten_pow (by omega))

theorem units_lt_ten_pow (h : n.log2 + 400 < e) : 2 * (n * unitsPerOne) ≤ 10 ^ (e + 1) := by
  obtain ⟨one, hone, power⟩ := unitsPerOne_eq
  have digits : n ≤ 2 ^ (n.log2 + 1) := Nat.le_of_lt Nat.lt_log2_self
  rw [power, Nat.pow_eq]
  calc
    2 * (n * 2 ^ one) ≤ 2 * (2 ^ (n.log2 + 1) * 2 ^ one) :=
      Nat.mul_le_mul_left 2 (Nat.mul_le_mul_right _ digits)
    _ = 2 ^ (n.log2 + 1 + one + 1) := by rw [← Nat.pow_add, Nat.pow_succ, Nat.mul_comm]
    _ ≤ 10 ^ (e + 1) := two_pow_le_ten_pow (by omega)

end Double

namespace Decimal

open Double

/-- The number that a decimal stands for. -/
def value (d : Decimal) : ℚ :=
  d.digits * 10 ^ d.exponent

theorem value_nonneg (d : Decimal) : 0 ≤ d.value := by
  unfold value
  positivity

theorem value_ofNat (digits e : Nat) : value ⟨digits, .ofNat e⟩ = (digits * 10 ^ e : Nat) := by
  simp [value]

theorem value_negSucc (digits e : Nat) :
    value ⟨digits, .negSucc e⟩ = digits / (10 ^ (e + 1) : Nat) := by
  rw [value, zpow_negSucc, Nat.cast_pow, div_eq_mul_inv]
  rfl

/-- A decimal is rounded to the closest magnitude. -/
theorem isClosest_bits (d : Decimal) : IsClosest (d.value * unitsPerOne) d.bits := by
  have pos (e : Nat) : 0 < 10 ^ e := Nat.pow_pos (by simp)
  fun_cases bits d with
  | case1 e =>
    apply isClosest_zero
    rw [value, Nat.cast_zero, zero_mul, zero_mul, mul_zero]
    exact zero_le_one
  | case2 digits e some high =>
    have one : 1 ≤ digits := Nat.one_le_iff_ne_zero.mpr some
    have more := Nat.mul_le_mul_right (10 ^ e * unitsPerOne) one
    have reached : (units infinity : ℚ) ≤ (digits * 10 ^ e : Nat) * unitsPerOne := by
      have := units_infinity_le high
      exact_mod_cast (by linarith : units infinity ≤ digits * 10 ^ e * unitsPerOne)
    have previous : (units (infinity - 1) : ℚ) ≤ units infinity := units_le (Nat.sub_le ..)
    rw [isClosest_infinity_iff, value_ofNat]
    linarith
  | case3 digits e =>
    have nearest := isClosest_nearest (digits * 10 ^ e) Nat.one_pos
    rwa [Nat.cast_one, div_one, ← value_ofNat] at nearest
  | case4 digits e _ low =>
    apply isClosest_zero
    have small := units_lt_ten_pow low
    rw [value_negSucc, div_mul_eq_mul_div, mul_div_assoc', div_le_one (by exact_mod_cast pos _)]
    exact_mod_cast small
  | case5 digits e =>
    rw [value_negSucc]
    exact isClosest_nearest digits (pos _)

/-- Decimals of the same value are rounded to the same magnitude. -/
theorem bits_congr {d d' : Decimal} (h : d.value = d'.value) : d.bits = d'.bits :=
  d.isClosest_bits.unique (h ▸ d'.isClosest_bits)

/-- A decimal that is exactly a magnitude is rounded to it. -/
theorem bits_exact {d : Decimal} {magnitude : Nat} (le : magnitude ≤ infinity)
    (h : d.value * unitsPerOne = units magnitude) : d.bits = magnitude := by
  have exact := isClosest_units le
  rw [← h] at exact
  exact d.isClosest_bits.unique exact

end Decimal
end Formula
