import Formula.Decimal
import Formula.Proofs.NearestIntegers

namespace Formula

namespace Double

/-! Magnitudes are counted in units here. The magnitude of the infinities takes part as the number
that would follow the largest finite one. -/

/-- No magnitude is closer, and of two equally close ones it is the even one. -/
structure IsClosest (q : ℚ) (bits : Nat) : Prop where
  le : bits ≤ infinity
  closest (other : Nat) (le : other ≤ infinity) : |q - units bits| ≤ |q - units other|
  even (other : Nat) (le : other ≤ infinity) (ne : other ≠ bits)
    (tie : |q - units other| = |q - units bits|) : Even bits

/-- A magnitude is preferred to the one in front of it. -/
def Above (q : ℚ) (bits : Nat) : Prop :=
  ∀ b, bits = b + 1 → (units b + units bits : ℚ) ≤ 2 * q ∧
    (2 * q = units b + units bits → Even bits)

/-- A magnitude is preferred to the one behind it. -/
def Below (q : ℚ) (bits : Nat) : Prop :=
  2 * q ≤ (units bits + units (bits + 1) : ℚ) ∧
    (2 * q = units bits + units (bits + 1) → Even bits)

variable {q r : ℚ} {bits block m n : Nat}

/-- Each magnitude has a place in its block. -/
theorem exists_block (bits : Nat) : ∃ block m, bits = block * 2 ^ 52 + m ∧ m < 2 ^ 53 ∧
    (block = 0 ∨ 2 ^ 52 ≤ m) := by
  by_cases small : bits < 2 ^ 52
  · exact ⟨0, bits, by omega, by omega, .inl rfl⟩
  · exact ⟨bits / 2 ^ 52 - 1, 2 ^ 52 + bits % 2 ^ 52, by omega, by omega, .inr (by omega)⟩

/-- The first magnitude of the next block continues the block. -/
theorem units_block_le (le : m ≤ 2 ^ 53) (full : block = 0 ∨ 2 ^ 52 ≤ m) :
    units (block * 2 ^ 52 + m) = m * 2 ^ block := by
  obtain rfl | lt := Nat.eq_or_lt_of_le le
  · have next : block * 2 ^ 52 + 2 ^ 53 = (block + 1) * 2 ^ 52 + 2 ^ 52 := by omega
    rw [next, units_block (by omega) (.inr (Nat.le_refl _)), Nat.pow_succ]
    omega
  · exact units_block lt full

theorem units_succ (lt : m < 2 ^ 53) (full : block = 0 ∨ 2 ^ 52 ≤ m) :
    units (block * 2 ^ 52 + m + 1) = units (block * 2 ^ 52 + m) + 2 ^ block := by
  rw [Nat.add_assoc, units_block_le lt (by omega), units_block lt full, Nat.succ_mul]

theorem units_strictMono : StrictMono units := by
  refine strictMono_nat_of_lt_succ fun bits => ?_
  obtain ⟨block, m, rfl, lt, full⟩ := exists_block bits
  rw [units_succ lt full]
  exact Nat.lt_add_of_pos_right (Nat.two_pow_pos block)

theorem units_zero : units 0 = 0 := rfl

theorem units_one : units 1 = 1 := rfl

theorem units_lt {a b : Nat} (h : a < b) : (units a : ℚ) < units b := by
  exact_mod_cast units_strictMono h

theorem units_le {a b : Nat} (h : a ≤ b) : (units a : ℚ) ≤ units b := by
  exact_mod_cast units_strictMono.monotone h

/-! The closer one of two numbers is found by comparing with their midpoint. -/

section

variable {a b : ℚ}

theorem abs_sub_le_left_iff (h : a < b) : |q - a| ≤ |q - b| ↔ 2 * q ≤ a + b := by
  rw [← sq_le_sq, ← sub_nonneg]
  have parts : (q - b) ^ 2 - (q - a) ^ 2 = (b - a) * (a + b - 2 * q) := by ring
  rw [parts, mul_nonneg_iff_of_pos_left (sub_pos.mpr h), sub_nonneg]

theorem abs_sub_le_right_iff (h : a < b) : |q - b| ≤ |q - a| ↔ a + b ≤ 2 * q := by
  rw [← sq_le_sq, ← sub_nonneg]
  have parts : (q - a) ^ 2 - (q - b) ^ 2 = (b - a) * (2 * q - (a + b)) := by ring
  rw [parts, mul_nonneg_iff_of_pos_left (sub_pos.mpr h), sub_nonneg]

theorem abs_sub_eq_iff (h : a < b) : |q - a| = |q - b| ↔ 2 * q = a + b := by
  rw [le_antisymm_iff, abs_sub_le_left_iff h, abs_sub_le_right_iff h, le_antisymm_iff]

end

/-- Only the neighbours have to be compared with. -/
theorem isClosest_iff : IsClosest q bits ↔
    bits ≤ infinity ∧ Above q bits ∧ (bits < infinity → Below q bits) := by
  constructor
  · intro ⟨le, closest, even⟩
    refine ⟨le, ?_, fun lt => ⟨?_, fun tie => ?_⟩⟩
    · rintro b rfl
      have step := units_lt (Nat.lt_succ_self b)
      exact ⟨(abs_sub_le_right_iff step).mp (closest b (by omega)),
        fun tie => even b (by omega) (by omega) ((abs_sub_eq_iff step).mpr tie)⟩
    · exact (abs_sub_le_left_iff (units_lt (Nat.lt_succ_self bits))).mp (closest _ lt)
    · exact even _ lt (by omega) ((abs_sub_eq_iff (units_lt (Nat.lt_succ_self bits))).mpr tie).symm
  · intro ⟨le, above, below⟩
    have compared (other : Nat) (ho : other ≤ infinity) (ne : other ≠ bits) :
        |q - units bits| ≤ |q - units other| ∧
          (|q - units other| = |q - units bits| → Even bits) := by
      rcases Nat.lt_or_gt_of_ne ne with before | behind
      · obtain ⟨b, rfl⟩ : ∃ b, bits = b + 1 := ⟨bits - 1, by omega⟩
        obtain ⟨mid, even⟩ := above b rfl
        have nearer : (units other : ℚ) ≤ units b := units_le (Nat.le_of_lt_succ before)
        rw [abs_sub_le_right_iff (units_lt before), abs_sub_eq_iff (units_lt before)]
        exact ⟨by linarith, fun tie => even (by linarith)⟩
      · obtain ⟨mid, even⟩ := below (by omega)
        have nearer : (units (bits + 1) : ℚ) ≤ units other := units_le behind
        rw [abs_sub_le_left_iff (units_lt behind), eq_comm, abs_sub_eq_iff (units_lt behind)]
        exact ⟨by linarith, fun tie => even (by linarith)⟩
    refine ⟨le, fun other ho => ?_, fun other ho ne => (compared other ho ne).2⟩
    by_cases same : other = bits
    · rw [same]
    · exact (compared other ho same).1

theorem IsClosest.le_of (h : IsClosest q bits) (h' : IsClosest q n) : bits ≤ n := by
  rw [isClosest_iff] at h h'
  by_contra before
  obtain ⟨b, rfl⟩ : ∃ b, bits = b + 1 := ⟨bits - 1, by omega⟩
  obtain ⟨mid, even⟩ := h.2.1 b rfl
  obtain ⟨mid', even'⟩ := h'.2.2 (by omega)
  -- Both midpoints are the number itself, so that the two are neighbours, but both are even.
  have low : (units n : ℚ) ≤ units b := units_le (by omega)
  have high : (units (n + 1) : ℚ) ≤ units (b + 1) := units_le (by omega)
  have next : n = b := by
    by_contra apart
    have := units_lt (show n < b by omega)
    linarith
  subst next
  obtain ⟨k, hk⟩ := even (by linarith)
  obtain ⟨l, hl⟩ := even' (by linarith)
  omega

/-- There is one closest magnitude only. -/
theorem IsClosest.unique (h : IsClosest q bits) (h' : IsClosest q n) : bits = n :=
  Nat.le_antisymm (h.le_of h') (h'.le_of h)

theorem isClosest_units (le : bits ≤ infinity) : IsClosest (units bits) bits := by
  refine isClosest_iff.mpr ⟨le, ?_, fun _ => ?_⟩
  · rintro b rfl
    have step := units_lt (Nat.lt_succ_self b)
    exact ⟨by linarith, fun tie => by linarith⟩
  · have step := units_lt (Nat.lt_succ_self bits)
    exact ⟨by linarith, fun tie => by linarith⟩

/-! A number in a block is rounded to a mantissa. -/

section Rounded

variable (near : IsNearest r (m : Nat)) (low : block = 0 ∨ 2 ^ 52 ≤ r) (high : r < 2 ^ 53)
include near

theorem IsNearest.bounds : r ≤ m + 1 / 2 ∧ (m : ℚ) ≤ r + 1 / 2 ∧
    (r = m + 1 / 2 ∨ (m : ℚ) = r + 1 / 2 → Even m) := by
  rw [isNearest_iff, Int.cast_natCast, Int.even_coe_nat] at near
  obtain ⟨close, even⟩ := near
  obtain ⟨below, above⟩ := abs_le.mp close
  refine ⟨by linarith, by linarith, ?_⟩
  rintro (tie | tie)
  · exact even (by rw [tie, add_sub_cancel_left]; norm_num)
  · exact even (by rw [tie, sub_add_cancel_left]; norm_num)

include low high

theorem mantissa_bounds : m ≤ 2 ^ 53 ∧ (block = 0 ∨ 2 ^ 52 ≤ m) := by
  obtain ⟨above, below, -⟩ := IsNearest.bounds near
  have le : (m : ℚ) < (2 ^ 53 + 1 : Nat) := by
    push_cast
    linarith
  refine ⟨Nat.lt_succ_iff.mp (by exact_mod_cast le), low.imp_right fun low => ?_⟩
  have lt : ((2 ^ 52 : Nat) : ℚ) < (m + 1 : Nat) := by
    push_cast
    linarith
  exact Nat.lt_succ_iff.mp (by exact_mod_cast lt)

theorem units_mantissa : (units (block * 2 ^ 52 + m) : ℚ) = m * 2 ^ block := by
  obtain ⟨le, full⟩ := mantissa_bounds near low high
  rw [units_block_le le full]
  push_cast
  rfl

theorem below_of_nearest : Below (r * 2 ^ block) (block * 2 ^ 52 + m) := by
  obtain ⟨above, -, even⟩ := IsNearest.bounds near
  obtain ⟨le, full⟩ := mantissa_bounds near low high
  have own := units_mantissa near low high
  have pos : (0 : ℚ) < 2 ^ block := by positivity
  obtain rfl | lt := Nat.eq_or_lt_of_le le
  · -- The mantissa is carried into the next block, and the number lies in front of it.
    have before := mul_lt_mul_of_pos_right high pos
    have next := units_lt (Nat.lt_succ_self (block * 2 ^ 52 + 2 ^ 53))
    rw [Nat.cast_pow, Nat.cast_ofNat] at own
    exact ⟨by linarith, fun tie => by linarith⟩
  · have next : (units (block * 2 ^ 52 + m + 1) : ℚ) = m * 2 ^ block + 2 ^ block := by
      rw [units_succ lt full, Nat.cast_add, own]
      push_cast
      rfl
    rw [Below, own, next]
    have scaled := mul_le_mul_of_nonneg_right above pos.le
    refine ⟨by linarith, fun tie => (Even.mul_left (by decide) block).add (even (.inl ?_))⟩
    exact mul_right_cancel₀ pos.ne' (by linarith)

theorem above_of_nearest : Above (r * 2 ^ block) (block * 2 ^ 52 + m) := by
  obtain ⟨-, below, even⟩ := IsNearest.bounds near
  obtain ⟨le, full⟩ := mantissa_bounds near low high
  have own := units_mantissa near low high
  have pos : (0 : ℚ) < 2 ^ block := by positivity
  intro b hb
  by_cases first : 0 < block ∧ m = 2 ^ 52
  · -- The block starts with the mantissa, and the number lies behind it.
    obtain ⟨later, rfl⟩ := first
    have start : (2 ^ 52 : ℚ) ≤ r := low.resolve_left (by omega)
    have behind := mul_le_mul_of_nonneg_right start pos.le
    have previous := units_lt (show b < block * 2 ^ 52 + 2 ^ 52 by omega)
    rw [Nat.cast_pow, Nat.cast_ofNat] at own
    exact ⟨by linarith, fun tie => by linarith⟩
  · obtain ⟨k, rfl⟩ : ∃ k, m = k + 1 := ⟨m - 1, by omega⟩
    obtain rfl : b = block * 2 ^ 52 + k := by omega
    have previous : (units (block * 2 ^ 52 + k) : ℚ) + 2 ^ block = (k + 1 : Nat) * 2 ^ block := by
      rw [← own, ← Nat.add_assoc, units_succ (by omega) (by omega)]
      push_cast
      rfl
    have scaled := mul_le_mul_of_nonneg_right below pos.le
    rw [own]
    refine ⟨by linarith, fun tie => (Even.mul_left (by decide) block).add (even (.inr ?_))⟩
    exact mul_right_cancel₀ pos.ne' (by linarith)

end Rounded

/-- The leading binary digits of a quotient, 53 of them unless it is smaller. -/
theorem leading_digits (n : Nat) : n < 2 ^ 53 * 2 ^ (n.log2 - 52) ∧
    (n.log2 - 52 = 0 ∨ 2 ^ 52 * 2 ^ (n.log2 - 52) ≤ n) := by
  constructor
  · calc
      n < 2 ^ (n.log2 + 1) := Nat.lt_log2_self
      _ ≤ 2 ^ (53 + (n.log2 - 52)) := Nat.pow_le_pow_right two_pos (by omega)
      _ = 2 ^ 53 * 2 ^ (n.log2 - 52) := Nat.pow_add ..
  · by_cases small : n.log2 ≤ 52
    · exact .inl (by omega)
    · have ne : n ≠ 0 := by
        rintro rfl
        simp at small
      right
      rw [← Nat.pow_add, Nat.add_sub_cancel' (by omega)]
      exact Nat.log2_self_le ne

theorem IsClosest.capped (above : Above q bits) (below : Below q bits) :
    IsClosest q (min infinity bits) := by
  rw [isClosest_iff]
  by_cases le : bits ≤ infinity
  · rw [Nat.min_eq_right le]
    exact ⟨le, above, fun _ => below⟩
  · obtain ⟨b, rfl⟩ : ∃ b, bits = b + 1 := ⟨bits - 1, by omega⟩
    rw [Nat.min_eq_left (by omega)]
    refine ⟨Nat.le_refl _, fun c hc => ?_, fun lt => absurd lt (Nat.lt_irrefl _)⟩
    have mid := (above b rfl).1
    have previous := units_lt (show c < infinity by omega)
    have last : (units infinity : ℚ) ≤ units b := units_le (by omega)
    have next := units_lt (Nat.lt_succ_self b)
    exact ⟨by linarith, fun tie => by linarith⟩

theorem isClosest_nearest (num : Nat) {den : Nat} (pos : 0 < den) :
    IsClosest (num / den * unitsPerOne) (nearest num den) := by
  have posQ : (0 : ℚ) < den := by exact_mod_cast pos
  have scaled : (num / den * unitsPerOne : ℚ) = (num * unitsPerOne : Nat) / den := by
    rw [Nat.cast_mul, div_mul_eq_mul_div]
  rw [scaled, nearest]
  generalize num * unitsPerOne = n
  obtain ⟨lt, full⟩ := leading_digits (n / den)
  generalize (n / den).log2 - 52 = block at *
  have place : (0 : ℚ) < 2 ^ block := by positivity
  have split : (n / den : ℚ) = n / (den * 2 ^ block : Nat) * 2 ^ block := by
    push_cast
    field_simp
  have near := isNearest_roundEven n (Nat.mul_pos pos (Nat.two_pow_pos block))
  have high : (n / (den * 2 ^ block : Nat) : ℚ) < 2 ^ 53 := by
    rw [div_lt_iff₀ (by positivity)]
    have := (Nat.div_lt_iff_lt_mul pos).mp lt
    exact_mod_cast (by linarith : n < 2 ^ 53 * (den * 2 ^ block))
  have low : block = 0 ∨ (2 ^ 52 : ℚ) ≤ n / (den * 2 ^ block : Nat) := by
    refine full.imp_right fun full => ?_
    rw [le_div_iff₀ (by positivity)]
    have := (Nat.le_div_iff_mul_le pos).mp full
    exact_mod_cast (by linarith : 2 ^ 52 * (den * 2 ^ block) ≤ n)
  rw [split]
  exact .capped (above_of_nearest near low high) (below_of_nearest near low high)

end Double
end Formula
