import Formula.Proofs.DecimalRounding

namespace Formula.Double

open Float.Model UnpackedFloat

variable {bits n : Nat} {q : ℚ} {x y : Float} {negative : Bool}

/-! A double is made of its sign and its magnitude. -/

/-- Bits that stand for a number are kept. -/
theorem toBits_ofBits {b : UInt64} (number : b.toNat % signBit ≤ infinity) :
    (Float.ofBits b).toBits = b := by
  have whole : @isNaNBits .binary64 b.toBitVec = false := by
    rw [isNaNBits, decide_eq_false_iff_not]
    intro ⟨high, low⟩
    have he := toNat_unpackExponent b.toBitVec
    have hm := toNat_unpackMantissa b.toBitVec
    have top : (-1#11).toNat = 2047 := rfl
    have last : infinity = 2047 * 2 ^ 52 := rfl
    have same : b.toBitVec.toNat = b.toNat := rfl
    rw [high, same] at he
    rw [ne_eq, ← BitVec.toNat_inj, hm, same] at low
    change (-1#11).toNat = _ at he
    change ¬ _ = 0 at low
    omega
  have packed := @pack_unpack .binary64 b.toBitVec (by decide)
  rw [whole] at packed
  exact congrArg UInt64.ofBitVec packed

theorem toBits_ofMagnitude (negative : Bool) (le : bits ≤ infinity) :
    (ofMagnitude negative bits).toBits.toNat = if negative then signBit + bits else bits := by
  have last : infinity = 0x7FF0000000000000 := rfl
  have sign : signBit = 0x8000000000000000 := rfl
  have kept : (UInt64.ofNat (if negative then signBit + bits else bits)).toNat =
      if negative then signBit + bits else bits := by
    rw [UInt64.toNat_ofNat', Nat.mod_eq_of_lt]
    rw [sign]
    split <;> omega
  rw [ofMagnitude, toBits_ofBits, kept]
  rw [kept, sign]
  split <;> omega

@[simp]
theorem magnitude_ofMagnitude (negative : Bool) (le : bits ≤ infinity) :
    magnitude (ofMagnitude negative bits) = bits := by
  have last : infinity = 0x7FF0000000000000 := rfl
  have sign : signBit = 0x8000000000000000 := rfl
  rw [magnitude, toBits_ofMagnitude negative le, sign]
  split <;> omega

@[simp]
theorem isNegative_ofMagnitude (negative : Bool) (le : bits ≤ infinity) :
    isNegative (ofMagnitude negative bits) = negative := by
  have last : infinity = 0x7FF0000000000000 := rfl
  have sign : signBit = 0x8000000000000000 := rfl
  rw [isNegative, toBits_ofMagnitude negative le]
  cases negative with
  | false =>
    rw [if_neg Bool.false_ne_true, decide_eq_false_iff_not]
    omega
  | true => simp

theorem ofMagnitude_magnitude (x : Float) : ofMagnitude (isNegative x) (magnitude x) = x := by
  have lt : x.toBits.toNat < 2 * signBit := x.toBits.toNat_lt
  have whole : (if isNegative x then signBit + magnitude x else magnitude x) = x.toBits.toNat := by
    unfold isNegative magnitude signBit at *
    split
    case isTrue h =>
      rw [decide_eq_true_eq] at h
      omega
    case isFalse h =>
      rw [decide_eq_true_eq] at h
      omega
  rw [ofMagnitude, whole, UInt64.ofNat_toNat, Float.ofBits_toBits]

/-- The value of a finite double with a given sign and magnitude. -/
theorem value?_ofMagnitude (negative : Bool) (lt : bits < infinity) :
    value? (ofMagnitude negative bits) = some ((signedUnits negative bits : ℚ) / unitsPerOne) := by
  have le := Nat.le_of_lt lt
  rw [value?_eq, isFinite, magnitude_ofMagnitude negative le, isNegative_ofMagnitude negative le,
    if_pos (decide_eq_true lt)]

/-- An even mantissa, as a finite number has it or not. -/
def evenMantissa : UnpackedFloat → Prop
  | .zero _ => True
  | .finite _ mantissa _ _ => Even mantissa
  | _ => False

/-- The last binary digit of the significand is zero. -/
def EvenSignificand (x : Float) : Prop :=
  evenMantissa x.toModel.unpack

theorem evenMantissa_of_decodes (h : Decodes negative bits u) (lt : bits < infinity)
    (even : Even bits) : evenMantissa u := by
  cases h with
  | zero => trivial
  | finite block m =>
    have whole : Even (block * 2 ^ 52) := Even.mul_left (by decide) block
    exact (Nat.even_add.mp even).mp whole
  | infinity => exact absurd lt (Nat.lt_irrefl _)
  | notANumber above => exact absurd lt (Nat.not_lt_of_gt above)

theorem evenSignificand_ofMagnitude (negative : Bool) (lt : bits < infinity) (even : Even bits) :
    EvenSignificand (ofMagnitude negative bits) := by
  refine evenMantissa_of_decodes (decodes _) ?_ ?_
  all_goals rwa [magnitude_ofMagnitude negative (Nat.le_of_lt lt)]

/-- The midpoint of the largest finite double and the power of two that would follow it. -/
def overflow : ℚ :=
  2 ^ 1024 - 2 ^ 970

theorem overflow_le_iff : overflow ≤ q ↔ IsClosest (q * unitsPerOne) infinity := by
  obtain ⟨n, k, hn, hk, top, last⟩ := units_last
  obtain ⟨j, hj⟩ : ∃ j, j = 970 := ⟨_, rfl⟩
  have pos : (0 : ℚ) < unitsPerOne := by exact_mod_cast unitsPerOne_pos
  have half : (2 : ℚ) ^ k = 2 * 2 ^ j := by rw [← pow_succ', show k = j + 1 by omega]
  have value : overflow = 2 ^ n - 2 ^ j := by rw [hn, hj, overflow]
  have highest : (units infinity : ℚ) = 2 ^ n * unitsPerOne := by exact_mod_cast top
  have lower : (units (infinity - 1) : ℚ) + 2 ^ k * unitsPerOne = units infinity := by
    exact_mod_cast last
  have scaled : (units (infinity - 1) + units infinity : ℚ) = 2 * (overflow * unitsPerOne) := by
    rw [half, highest] at lower
    rw [value, highest]
    linarith
  rw [isClosest_infinity_iff, scaled, mul_le_mul_iff_right₀ two_pos, mul_le_mul_iff_left₀ pos]

theorem isClosest_zero_of_le (h : q ≤ 2 ^ (-1075 : ℤ)) : IsClosest (q * unitsPerOne) 0 := by
  have pos : (0 : ℚ) < unitsPerOne := by exact_mod_cast unitsPerOne_pos
  have unit := two_zpow_sub 0
  have half : (2 : ℚ) ^ (-1075 : ℤ) * 2 = 2 ^ (((0 : Nat) : ℤ) - 1074) := by
    rw [← zpow_add_one₀ two_ne_zero]
    rfl
  rw [unit, pow_zero, eq_div_iff pos.ne'] at half
  apply isClosest_zero
  calc
    2 * (q * unitsPerOne) ≤ 2 * (2 ^ (-1075 : ℤ) * unitsPerOne) := by gcongr
    _ = 1 := by linarith

theorem signedUnits_false (bits : Nat) : (signedUnits false bits : ℚ) = units bits := rfl

theorem signedUnits_true (bits : Nat) : (signedUnits true bits : ℚ) = -units bits := by
  rw [signedUnits, signOf_true_apply]
  push_cast
  rfl

/-- A sign does not bring a magnitude closer to a number that is not negative. -/
theorem abs_sub_units_le (nonneg : 0 ≤ q) (negative : Bool) (bits : Nat) :
    |q - units bits| ≤ |q - signedUnits negative bits| := by
  cases negative with
  | false => rfl
  | true =>
    have size : (0 : ℚ) ≤ units bits := Nat.cast_nonneg _
    have far : |q + units bits| = q + units bits := abs_of_nonneg (by linarith)
    rw [signedUnits_true, sub_neg_eq_add, far]
    exact abs_sub_le_iff.mpr ⟨by linarith, by linarith⟩

/-- With its sign changed the closest magnitude is as close only if it is zero. -/
theorem IsClosest.signed_of_tie (h : IsClosest q bits)
    (tie : |q - signedUnits negative bits| = |q - units bits|) :
    (signedUnits negative bits : ℚ) = units bits := by
  cases negative with
  | false => rfl
  | true =>
    rw [signedUnits_true] at tie ⊢
    rcases abs_eq_abs.mp tie with same | opposite
    · linarith
    · obtain rfl : q = 0 := by linarith
      have closest := h.closest 0 (Nat.zero_le _)
      rw [units_zero, Nat.cast_zero, sub_zero, abs_zero, abs_nonpos_iff] at closest
      linarith

/-- What a number that is not negative is rounded to: the closest finite double, in a tie one with
an even significand, and from the midpoint behind the largest one on infinity. Up to half of the
smallest positive double it is zero. -/
structure RoundsTo (q : ℚ) (x : Float) : Prop where
  positive : isNegative x = false
  closest (h : q < overflow) : ∃ v, value? x = some v ∧ ∀ y w, value? y = some w →
    |q - v| ≤ |q - w| ∧ (w ≠ v → |q - w| = |q - v| → EvenSignificand x)
  infinite (h : overflow ≤ q) : x.toBits = 0x7FF0000000000000
  zero (h : q ≤ 2 ^ (-1075 : ℤ)) : x.toBits = 0

theorem roundsTo_ofMagnitude (nonneg : 0 ≤ q) (h : IsClosest (q * unitsPerOne) bits) :
    RoundsTo q (ofMagnitude false bits) := by
  have pos : (0 : ℚ) < unitsPerOne := by exact_mod_cast unitsPerOne_pos
  have scaled (n : ℚ) : |q - n / unitsPerOne| = |q * unitsPerOne - n| / unitsPerOne := by
    rw [← abs_of_pos pos, ← abs_div, abs_of_pos pos, sub_div, mul_div_cancel_right₀ q pos.ne']
  have positive := isNegative_ofMagnitude false h.le
  have toBits := toBits_ofMagnitude false h.le
  refine ⟨positive, fun lt => ?_, fun le => ?_, fun le => ?_⟩
  · have finite : bits < infinity := by
      refine Nat.lt_of_le_of_ne h.le ?_
      rintro rfl
      exact absurd (overflow_le_iff.mpr h) (not_le.mpr lt)
    refine ⟨_, value?_ofMagnitude false finite, fun y w hy => ?_⟩
    rw [value?_eq] at hy
    split at hy
    case isFalse => cases hy
    case isTrue other =>
      cases hy
      have other : magnitude y ≤ infinity := Nat.le_of_lt (of_decide_eq_true other)
      have unsigned := abs_sub_units_le (mul_nonneg nonneg pos.le) (isNegative y) (magnitude y)
      have closest := h.closest _ other
      rw [signedUnits_false, scaled, scaled, div_le_div_iff_of_pos_right pos,
        div_left_inj' pos.ne']
      refine ⟨closest.trans unsigned, fun ne tie => evenSignificand_ofMagnitude false finite ?_⟩
      by_cases same : magnitude y = bits
      · rw [same] at tie ne
        exact absurd (congrArg (· / (unitsPerOne : ℚ)) (h.signed_of_tie tie)) ne
      · exact h.even _ other same (le_antisymm (unsigned.trans_eq tie) closest)
  · obtain rfl := h.unique (overflow_le_iff.mp le)
    exact UInt64.toNat_inj.mp toBits
  · obtain rfl := h.unique (isClosest_zero_of_le le)
    exact UInt64.toNat_inj.mp toBits

end Formula.Double
