import Formula.Proofs.DoubleValues
import Formula.Value

namespace Formula

/-- No whole number is nearer, and of two equally near ones it is the even one. -/
structure IsNearest (q : ℚ) (n : Int) : Prop where
  nearest (m : Int) : |q - n| ≤ |q - m|
  even (m : Int) (other : m ≠ n) (tie : |q - m| = |q - n|) : Even n

/-- The nearest whole number is at most a half away. -/
theorem isNearest_iff {q : ℚ} {n : Int} :
    IsNearest q n ↔ |q - n| ≤ 1 / 2 ∧ (|q - n| = 1 / 2 → Even n) := by
  constructor
  · rintro ⟨nearest, even⟩
    refine ⟨(nearest (round q)).trans (abs_sub_round q), fun half => ?_⟩
    rcases eq_or_eq_neg_of_abs_eq half with above | below
    · exact even (n + 1) (by omega) (by rw [half, Int.cast_add, ← sub_sub, above]; norm_num)
    · exact even (n - 1) (by omega) (by rw [half, Int.cast_sub, ← sub_add, below]; norm_num)
  · rintro ⟨near, even⟩
    have far (m : Int) (other : m ≠ n) : 1 / 2 ≤ |q - m| := by
      have apart : (1 : ℚ) ≤ |(m : ℚ) - n| := by
        exact_mod_cast Int.one_le_abs (sub_ne_zero.mpr other)
      have between : |(m : ℚ) - n| ≤ |q - n| + |q - m| := by
        rw [← sub_sub_sub_cancel_left (n : ℚ) (m : ℚ) q]
        exact abs_sub _ _
      linarith
    refine ⟨fun m => ?_, fun m other tie => even (le_antisymm near (tie ▸ far m other))⟩
    by_cases other : m = n
    · rw [other]
    · exact near.trans (far m other)

theorem IsNearest.neg (h : IsNearest q n) : IsNearest (-q) (-n) := by
  have same : |-q - (-n : Int)| = |q - n| := by
    rw [Int.cast_neg, neg_sub_neg, abs_sub_comm]
  rw [isNearest_iff] at h ⊢
  rw [same]
  exact ⟨h.1, fun half => (h.2 half).neg⟩

theorem IsNearest.le (h : IsNearest q n) (h' : IsNearest q m) : n ≤ m := by
  rw [isNearest_iff] at h h'
  by_contra below
  have step : (m : ℚ) + 1 ≤ n := by
    exact_mod_cast Int.add_one_le_iff.mpr (Int.not_le.mp below)
  have up := (abs_le.mp h.1).1
  have down := (abs_le.mp h'.1).2
  -- Both are equally near, and so both are even although one follows the other.
  have half : q - n = -(1 / 2) := by linarith
  have half' : q - m = 1 / 2 := by linarith
  have next : n = m + 1 := by
    have : (n : ℚ) = m + 1 := by linarith
    exact_mod_cast this
  obtain ⟨a, ha⟩ := h.2 (by rw [half]; norm_num)
  obtain ⟨b, hb⟩ := h'.2 (by rw [half']; norm_num)
  omega

theorem IsNearest.unique (h : IsNearest q n) (h' : IsNearest q m) : n = m :=
  Int.le_antisymm (h.le h') (h'.le h)

namespace Double

open Float.Model

theorem isNearest_roundEven (num : Nat) {den : Nat} (pos : 0 < den) :
    IsNearest (num / den : ℚ) (roundEven num den : Nat) := by
  rw [isNearest_iff]
  have posQ : (0 : ℚ) < den := by exact_mod_cast pos
  have whole : (num : ℚ) / den = (num / den : Nat) + (num % den : Nat) / den := by
    have parts : (num : ℚ) = den * (num / den : Nat) + (num % den : Nat) := by
      exact_mod_cast (Nat.div_add_mod num den).symm
    field_simp
    linarith
  have nonneg : (0 : ℚ) ≤ (num % den : Nat) / den := by positivity
  have small : ((num % den : Nat) : ℚ) / den < 1 :=
    (div_lt_one posQ).mpr (by exact_mod_cast Nat.mod_lt num pos)
  rw [whole]
  unfold roundEven
  dsimp only
  generalize num / den = q at *
  generalize num % den = r at *
  split_ifs with low high
  · have below : (r : ℚ) / den < 1 / 2 := by
      rw [div_lt_div_iff₀ posQ two_pos]
      exact_mod_cast (by omega : r * 2 < 1 * den)
    have distance : |(q : ℚ) + r / den - ((q : Nat) : Int)| = r / den := by
      rw [Int.cast_natCast, add_sub_cancel_left, abs_of_nonneg nonneg]
    rw [distance]
    exact ⟨below.le, fun tie => absurd tie below.ne⟩
  · have above : 1 / 2 < (r : ℚ) / den := by
      rw [div_lt_div_iff₀ two_pos posQ]
      exact_mod_cast (by omega : 1 * den < r * 2)
    have distance : |(q : ℚ) + r / den - ((q + 1 : Nat) : Int)| = 1 - r / den := by
      rw [Int.cast_natCast, Nat.cast_add, Nat.cast_one, add_sub_add_left_eq_sub, abs_sub_comm,
        abs_of_pos (sub_pos.mpr small)]
    rw [distance]
    exact ⟨by linarith, fun tie => by linarith⟩
  · have half : (r : ℚ) / den = 1 / 2 := by
      rw [div_eq_div_iff posQ.ne' two_ne_zero]
      exact_mod_cast (by omega : r * 2 = 1 * den)
    rw [half]
    rcases Nat.mod_two_eq_zero_or_one q with even | odd
    · rw [even, Nat.add_zero, Int.cast_natCast, add_sub_cancel_left]
      exact ⟨by norm_num, fun _ => (Int.even_coe_nat q).mpr (Nat.even_iff.mpr even)⟩
    · rw [odd, Int.cast_natCast, Nat.cast_add, Nat.cast_one, add_sub_add_left_eq_sub]
      exact ⟨by norm_num, fun _ => (Int.even_coe_nat _).mpr (Nat.even_iff.mpr (by omega))⟩

/-- The whole number is the nearest one to the number that a double stands for. -/
def Rounds (x : Float) (n : Int) : Prop :=
  ∃ q, value? x = some q ∧ IsNearest q n

theorem Rounds.unique (h : Rounds x n) (h' : Rounds x m) : n = m := by
  obtain ⟨q, value, nearest⟩ := h
  obtain ⟨q', value', nearest'⟩ := h'
  obtain rfl : q = q' := Option.some.inj (value.symm.trans value')
  exact nearest.unique nearest'

theorem rounds_of_nearestInt (h : nearestInt x = some n) : Rounds x n := by
  unfold nearestInt at h
  split at h
  case isTrue finite =>
    have near := isNearest_roundEven (units (magnitude x)) unitsPerOne_pos
    refine ⟨_, by rw [value?_eq, if_pos finite], ?_⟩
    obtain rfl := Option.some.inj h
    rw [signedUnits]
    cases isNegative x with
    | false => exact near
    | true =>
      rw [signOf_true_apply, Int.cast_neg, neg_div]
      exact near.neg
  case isFalse => cases h

theorem nearestInt_eq_some_iff : nearestInt x = some n ↔ Rounds x n := by
  refine ⟨rounds_of_nearestInt, fun h => ?_⟩
  obtain ⟨q, value, nearest⟩ := h
  have finite : isFinite x := by
    by_contra infinite
    rw [value?_eq, if_neg infinite] at value
    cases value
  obtain ⟨m, found⟩ : ∃ m, nearestInt x = some m := ⟨_, if_pos finite⟩
  rw [found, (rounds_of_nearestInt found).unique ⟨q, value, nearest⟩]

theorem value?_eq_none_iff : value? x = none ↔ x.isNaN ∨ x.isInf := by
  change numberOf x.toModel.unpack = none ↔
    x.toModel.unpack.isNaN = true ∨ x.toModel.unpack.isInf = true
  cases x.toModel.unpack <;>
    simp [numberOf, UnpackedFloat.isNaN, UnpackedFloat.isInf]

/-- What is not a number is not rounded, and neither are the infinities. -/
theorem not_rounds (h : x.isNaN ∨ x.isInf) : ¬ Rounds x n := by
  rintro ⟨q, value, -⟩
  rw [value?_eq_none_iff.mpr h] at value
  cases value

end Double

namespace Value

/-- A double becomes the nearest integer if that is in range. -/
theorem toInteger_double_eq_ok_iff : toInteger (.double x) = .ok n ↔ Double.Rounds x n.toInt := by
  rw [← Double.nearestInt_eq_some_iff, toInteger]
  have low := n.le_toInt
  have high := n.toInt_lt
  constructor
  · intro h
    split at h
    case h_1 m found =>
      split at h
      case isTrue inside =>
        cases h
        rw [found, Int64.toInt_ofInt_of_le inside.1 inside.2]
      case isFalse => cases h
    case h_2 => cases h
  · intro found
    rw [found]
    dsimp only
    rw [if_pos ⟨low, high⟩, Int64.ofInt_toInt]

theorem toInteger_double_outOfRange (h : ∀ n : Int64, ¬ Double.Rounds x n.toInt) :
    toInteger (.double x) = .error (.outOfRange x) := by
  cases result : toInteger (.double x) with
  | ok n => exact absurd (toInteger_double_eq_ok_iff.mp result) (h n)
  | error e =>
    rw [toInteger] at result
    split at result
    case h_1 =>
      split at result
      · cases result
      · cases result
        rfl
    case h_2 =>
      cases result
      rfl

/-- No integer of 64 bits is the nearest one to a number so far from zero. -/
theorem toInteger_double_far
    (far : x.isNaN ∨ x.isInf ∨ ∀ k, Double.Rounds x k → k < -2 ^ 63 ∨ 2 ^ 63 ≤ k) :
    toInteger (.double x) = .error (.outOfRange x) := by
  refine toInteger_double_outOfRange fun n rounds => ?_
  have low := n.le_toInt
  have high := n.toInt_lt
  rcases far with number | infinite | far
  · exact Double.not_rounds (.inl number) rounds
  · exact Double.not_rounds (.inr infinite) rounds
  · rcases far _ rounds with below | above
    · omega
    · omega

/-- The integers of 64 bits are those from `-2 ^ 63` up to `2 ^ 63`. -/
theorem exists_toInteger_double_iff {k : Int} :
    (∃ n : Int64, n.toInt = k ∧ toInteger (.double x) = .ok n) ↔
      Double.Rounds x k ∧ -2 ^ 63 ≤ k ∧ k < 2 ^ 63 := by
  constructor
  · rintro ⟨n, rfl, converted⟩
    exact ⟨toInteger_double_eq_ok_iff.mp converted, n.le_toInt, n.toInt_lt⟩
  · rintro ⟨rounds, low, high⟩
    have whole := Int64.toInt_ofInt_of_le low high
    exact ⟨.ofInt k, whole, toInteger_double_eq_ok_iff.mpr (whole.symm ▸ rounds)⟩

end Value
end Formula
