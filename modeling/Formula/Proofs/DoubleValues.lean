import Formula.Double.Nearest
import Mathlib

namespace Formula.Double

open Float.Model UnpackedFloat

/-- The sign of the numbers that are negative, and of the others. -/
def signOf (negative : Bool) : UnpackedFloat.Sign :=
  if negative then .negative else .positive

@[simp]
theorem signOf_false_apply (n : Int) : (signOf false).apply n = n := rfl

@[simp]
theorem signOf_true_apply (n : Int) : (signOf true).apply n = -n := rfl

/-- How the sign bit and the magnitude of a double are decoded. In a block of `2 ^ 52` magnitudes
the mantissas have the same exponent. The two lowest blocks share theirs, and of the others
the mantissas have all 53 bits. -/
inductive Decodes (negative : Bool) : Nat → UnpackedFloat → Prop where
  | zero : Decodes negative 0 (.zero (signOf negative))
  | finite (block mantissa : Nat) (pos : 0 < mantissa) (lt : mantissa < 2 ^ 53)
      (full : block = 0 ∨ 2 ^ 52 ≤ mantissa) (below : block * 2 ^ 52 + mantissa < infinity) :
      Decodes negative (block * 2 ^ 52 + mantissa)
        (.finite (signOf negative) mantissa (block - 1074) pos)
  | infinity : Decodes negative infinity (.infinity (signOf negative))
  | notANumber (above : infinity < bits) : Decodes negative bits .notANumber

section

variable (b : BitVec Format.binary64.numBits)

theorem toNat_unpackMantissa : (unpackMantissa b).toNat = b.toNat % signBit % 2 ^ 52 := by
  rw [unpackMantissa_def, BitVec.extractLsb'_toNat, Nat.shiftRight_zero]
  exact (Nat.mod_mod_of_dvd _ (by decide)).symm

theorem toNat_unpackExponent : (unpackExponent b).toNat = b.toNat % signBit / 2 ^ 52 := by
  rw [unpackExponent_def, BitVec.extractLsb'_toNat, Nat.shiftRight_eq_div_pow]
  change b.toNat / 2 ^ 52 % 2 ^ 11 = b.toNat % 2 ^ 63 / 2 ^ 52
  omega

theorem toNat_unpackSign : (unpackSign b).toNat = b.toNat / signBit := by
  have lt : b.toNat < 2 ^ 64 := b.isLt
  rw [unpackSign_def, BitVec.extractLsb'_toNat, Nat.shiftRight_eq_div_pow]
  change b.toNat / 2 ^ 63 % 2 ^ 1 = b.toNat / 2 ^ 63
  omega

theorem ofBitVec_unpackSign :
    UnpackedFloat.Sign.ofBitVec (unpackSign b) = signOf (signBit ≤ b.toNat) := by
  have bit := toNat_unpackSign b
  have lt : b.toNat < 2 * signBit := b.isLt
  by_cases negative : signBit ≤ b.toNat
  · have one : unpackSign b = 1#1 := by
      apply BitVec.eq_of_toNat_eq
      rw [bit]
      change b.toNat / signBit = 1
      unfold signBit at *
      omega
    rw [one, decide_eq_true negative]
    rfl
  · have zero : unpackSign b = 0#1 := by
      apply BitVec.eq_of_toNat_eq
      rw [bit]
      exact Nat.div_eq_of_lt (Nat.not_le.mp negative)
    rw [zero, decide_eq_false negative]
    rfl

theorem toNat_one_append (m : BitVec 52) : (1#1 ++ m).toNat = 2 ^ 52 + m.toNat := by
  rw [BitVec.toNat_append, ← Nat.shiftLeft_add_eq_or_of_lt m.isLt]
  rfl

theorem decodes_finite {negative : Bool} {e : Int} (block : Nat) (pos : 0 < m) (lt : m < 2 ^ 53)
    (full : block = 0 ∨ 2 ^ 52 ≤ m) (parts : block * 2 ^ 52 + m = bits) (below : bits < infinity)
    (exponent : block - 1074 = e) :
    Decodes negative bits (.finite (signOf negative) m e pos) := by
  subst parts exponent
  exact .finite block m pos lt full below

/-- The exponent and the mantissa are two parts of the magnitude. -/
theorem decodes_unpack :
    Decodes (signBit ≤ b.toNat) (b.toNat % signBit) (UnpackedFloat.unpack .binary64 b) := by
  have hm := toNat_unpackMantissa b
  have he := toNat_unpackExponent b
  have lt : b.toNat % signBit < 2 ^ 63 := Nat.mod_lt _ (by decide)
  have mlt : (unpackMantissa b).toNat < 2 ^ 52 := (unpackMantissa b).isLt
  have bias : ((Format.binary64.exponentBias : Int) + (52 : Nat)) = 1075 := rfl
  simp only [UnpackedFloat.unpack, ofBitVec_unpackSign, ← BitVec.toNat_inj, bias]
  generalize decide (signBit ≤ b.toNat) = negative
  generalize b.toNat % signBit = bits at *
  have top : (-1#11).toNat = 2047 := rfl
  have last : infinity = 2047 * 2 ^ 52 := rfl
  split_ifs with high whole low none
  · have all : bits = infinity := by
      change _ = 0 at whole
      omega
    rw [all]
    exact .infinity
  · refine .notANumber ?_
    change _ ≠ 0 at whole
    omega
  · change _ = 0 at low none
    have all : bits = 0 := by omega
    rw [all]
    exact .zero
  · change _ = 0 at low
    refine decodes_finite 0 _ ?_ (.inl rfl) ?_ ?_ ?_
    all_goals omega
  · change _ ≠ 0 at low
    have whole := toNat_one_append (unpackMantissa b)
    refine decodes_finite ((unpackExponent b).toNat - 1) _ ?_ (.inr ?_) ?_ ?_ ?_
    all_goals omega

end

theorem decodes (x : Float) : Decodes (isNegative x) (magnitude x) x.toModel.unpack :=
  decodes_unpack x.toBits.toBitVec

/-- The number that a double stands for, if it is finite. -/
def numberOf : UnpackedFloat → Option ℚ
  | .zero _ => some 0
  | .finite sign mantissa exponent _ => some (sign.apply mantissa * 2 ^ exponent)
  | _ => none

def value? (x : Float) : Option ℚ :=
  numberOf x.toModel.unpack

theorem units_block {block m : Nat} (lt : m < 2 ^ 53) (full : block = 0 ∨ 2 ^ 52 ≤ m) :
    units (block * 2 ^ 52 + m) = m * 2 ^ block := by
  have pow : Nat.pow 2 52 = 2 ^ 52 := rfl
  by_cases small : block * 2 ^ 52 + m < 2 ^ 52
  · obtain rfl : block = 0 := by omega
    rw [units, pow, if_pos small]
    omega
  · obtain ⟨next, rest⟩ : (block * 2 ^ 52 + m) / 2 ^ 52 = block + 1 ∧
        2 ^ 52 + (block * 2 ^ 52 + m) % 2 ^ 52 = m := by omega
    rw [units, pow, if_neg small, next, rest]
    rfl

/-- One is a power of two. Its exponent is named, since the power is too large to be computed on the
way. -/
theorem unitsPerOne_eq : ∃ n, n = 1074 ∧ unitsPerOne = Nat.pow 2 n :=
  ⟨1074, rfl, by unfold unitsPerOne; rfl⟩

theorem unitsPerOne_pos : 0 < unitsPerOne := by
  obtain ⟨n, -, power⟩ := unitsPerOne_eq
  rw [power]
  exact Nat.two_pow_pos n

theorem two_zpow_sub (block : Nat) : (2 : ℚ) ^ ((block : Int) - 1074) = 2 ^ block / unitsPerOne := by
  obtain ⟨n, exponent, power⟩ := unitsPerOne_eq
  have cast : (1074 : Int) = n := by
    rw [exponent]
    rfl
  rw [power, cast, Nat.pow_eq, zpow_sub₀ two_ne_zero, zpow_natCast, zpow_natCast, Nat.cast_pow,
    Nat.cast_ofNat]

/-- The whole number of units in a finite number. -/
def signedUnits (negative : Bool) (bits : Nat) : Int :=
  (signOf negative).apply (units bits)

/-- A double stands for a number unless its magnitude is too large. -/
theorem numberOf_of_decodes (h : Decodes negative bits u) : numberOf u =
    if bits < infinity then some ((signedUnits negative bits : ℚ) / unitsPerOne) else none := by
  cases h with
  | zero =>
    have none : signedUnits negative 0 = 0 := by cases negative <;> rfl
    rw [if_pos (by decide), none, Int.cast_zero, zero_div]
    rfl
  | finite block m pos lt full below =>
    have sign : signedUnits negative (block * 2 ^ 52 + m) =
        (signOf negative).apply m * 2 ^ block := by
      rw [signedUnits, units_block lt full]
      cases negative <;> simp
    rw [if_pos below, numberOf, two_zpow_sub, sign, Int.cast_mul, Int.cast_pow, mul_div_assoc]
    rfl
  | infinity =>
    rw [if_neg (Nat.lt_irrefl _)]
    rfl
  | notANumber above =>
    rw [if_neg (Nat.not_lt.mpr (Nat.le_of_lt above))]
    rfl

theorem value?_eq (x : Float) : value? x = if isFinite x then
    some ((signedUnits (isNegative x) (magnitude x) : ℚ) / unitsPerOne) else none := by
  rw [value?, numberOf_of_decodes (decodes x), isFinite]
  simp only [decide_eq_true_eq]

end Formula.Double
