import Formula.Proofs.DoubleValues

namespace Formula.Double

open Float.Model

/-- The position of a double in the order of the numbers. Both zeros are at zero. -/
def rank (x : Float) : Int :=
  (signOf (isNegative x)).apply (magnitude x)

/-- Blocks are compared first, and within a block the mantissas. -/
theorem compare_blocks {block block' m m' : Nat} (lt : m < 2 ^ 53) (lt' : m' < 2 ^ 53)
    (full : block = 0 ∨ 2 ^ 52 ≤ m) (full' : block' = 0 ∨ 2 ^ 52 ≤ m') :
    (compare ((block : Int) - 1074) (block' - 1074)).then (compare m m') =
      compare ((block * 2 ^ 52 + m : Nat) : Int) (block' * 2 ^ 52 + m' : Nat) := by
  rcases Nat.lt_trichotomy block block' with below | rfl | above
  · have apart : ((block * 2 ^ 52 + m : Nat) : Int) < (block' * 2 ^ 52 + m' : Nat) := by omega
    rw [compare_lt_iff_lt.mpr (by omega : (block : Int) - 1074 < block' - 1074),
      compare_lt_iff_lt.mpr apart]
    rfl
  · rw [compare_eq_iff_eq.mpr rfl, Ordering.eq_then]
    rcases Nat.lt_trichotomy m m' with below | rfl | above
    · rw [compare_lt_iff_lt.mpr below, compare_lt_iff_lt.mpr (by omega)]
    · rw [compare_eq_iff_eq.mpr rfl, compare_eq_iff_eq.mpr rfl]
    · rw [compare_gt_iff_gt.mpr above, compare_gt_iff_gt.mpr (by omega)]
  · have apart : ((block * 2 ^ 52 + m : Nat) : Int) > (block' * 2 ^ 52 + m' : Nat) := by omega
    rw [compare_gt_iff_gt.mpr (by omega : (block : Int) - 1074 > block' - 1074),
      compare_gt_iff_gt.mpr apart]
    rfl

theorem compare_neg_neg (a b : Int) : compare (-a) (-b) = (compare a b).swap := by
  rcases lt_trichotomy a b with below | rfl | above
  · rw [compare_lt_iff_lt.mpr below, compare_gt_iff_gt.mpr (neg_lt_neg below)]
    rfl
  · rw [compare_eq_iff_eq.mpr rfl, compare_eq_iff_eq.mpr rfl]
    rfl
  · rw [compare_gt_iff_gt.mpr above, compare_lt_iff_lt.mpr (neg_lt_neg above)]
    rfl

theorem apply_bounds (negative : Bool) (n : Nat) :
    -(n : Int) ≤ (signOf negative).apply n ∧ (signOf negative).apply n ≤ n := by
  cases negative with
  | false =>
    rw [signOf_false_apply]
    omega
  | true =>
    rw [signOf_true_apply]
    omega

/-- A magnitude that is larger than another one decides a comparison by its sign alone. -/
theorem compare_larger {negative negative' : Bool} {bits bits' : Nat} (lt : bits' < bits) :
    compare ((signOf negative).apply bits : Int) ((signOf negative').apply bits') =
      if negative then .lt else .gt := by
  obtain ⟨low, high⟩ := apply_bounds negative' bits'
  cases negative with
  | false =>
    rw [signOf_false_apply]
    exact compare_gt_iff_gt.mpr (by omega)
  | true =>
    rw [signOf_true_apply]
    exact compare_lt_iff_lt.mpr (by omega)

theorem compare_smaller {negative negative' : Bool} {bits bits' : Nat} (lt : bits < bits') :
    compare ((signOf negative).apply bits : Int) ((signOf negative').apply bits') =
      if negative' then .gt else .lt := by
  rw [Std.OrientedOrd.eq_swap, compare_larger lt]
  cases negative' with
  | false => rfl
  | true => rfl

/-- Decoded doubles are compared in the order of their signed magnitudes. -/
theorem compare_of_decodes (h : Decodes negative bits u) (h' : Decodes negative' bits' u')
    (number : bits ≤ infinity) (number' : bits' ≤ infinity) :
    u.compare u' = some (compare ((signOf negative).apply bits : Int)
      ((signOf negative').apply bits')) := by
  have positive : 0 < infinity := by decide
  cases h with
  | notANumber above => omega
  | zero =>
    cases h' with
    | notANumber above => omega
    | zero => cases negative <;> cases negative' <;> rfl
    | finite block m pos lt full below =>
      rw [compare_smaller (by omega)]
      cases negative' <;> rfl
    | infinity =>
      rw [compare_smaller positive]
      cases negative' <;> rfl
  | finite block m pos lt full below =>
    cases h' with
    | notANumber above => omega
    | zero =>
      rw [compare_larger (by omega)]
      cases negative <;> rfl
    | finite block' m' pos' lt' full' below' =>
      have blocks := compare_blocks lt lt' full full'
      cases negative with
      | false =>
        rw [signOf_false_apply]
        cases negative' with
        | false => exact congrArg some blocks
        | true =>
          rw [signOf_true_apply, compare_gt_iff_gt.mpr (by omega)]
          rfl
      | true =>
        rw [signOf_true_apply]
        cases negative' with
        | false =>
          rw [signOf_false_apply, compare_lt_iff_lt.mpr (by omega)]
          rfl
        | true =>
          rw [signOf_true_apply, compare_neg_neg, ← blocks]
          rfl
    | infinity =>
      rw [compare_smaller below]
      cases negative' <;> rfl
  | infinity =>
    cases h' with
    | notANumber above => omega
    | zero =>
      rw [compare_larger positive]
      cases negative <;> rfl
    | finite block m pos lt full below =>
      rw [compare_larger below]
      cases negative <;> rfl
    | infinity => cases negative <;> cases negative' <;> rfl

theorem magnitude_le_of_number (number : x.isNaN = false) : magnitude x ≤ infinity := by
  change x.toModel.unpack.isNaN = false at number
  have decoded := decodes x
  revert decoded number
  generalize x.toModel.unpack = u
  generalize magnitude x = bits
  intro number decoded
  cases decoded with
  | zero => exact Nat.zero_le _
  | finite _ _ _ _ _ below => exact Nat.le_of_lt below
  | infinity => exact Nat.le_refl _
  | notANumber => cases number

theorem compare_eq_rank (number : x.isNaN = false) (number' : y.isNaN = false) :
    x.toModel.unpack.compare y.toModel.unpack = some (compare (rank x) (rank y)) :=
  compare_of_decodes (decodes x) (decodes y) (magnitude_le_of_number number)
    (magnitude_le_of_number number')

/-- Numbers are in the order of their ranks. -/
theorem lt_iff_rank_lt (number : x.isNaN = false) (number' : y.isNaN = false) :
    x < y ↔ rank x < rank y := by
  change decide (x.toModel < y.toModel) = true ↔ _
  rw [decide_eq_true_iff]
  change (x.toModel.unpack.compare y.toModel.unpack == some .lt) = true ↔ _
  rw [compare_eq_rank number number', beq_iff_eq, Option.some_inj, compare_lt_iff_lt]

/-- Numbers are equal exactly where their ranks are. -/
theorem beq_iff_rank_eq (number : x.isNaN = false) (number' : y.isNaN = false) :
    x == y ↔ rank x = rank y := by
  change (x.toModel.unpack.compare y.toModel.unpack == some .eq) = true ↔ _
  rw [compare_eq_rank number number', beq_iff_eq, Option.some_inj, compare_eq_iff_eq]

end Formula.Double
