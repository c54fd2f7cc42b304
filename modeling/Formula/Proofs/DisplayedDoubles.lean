import Formula.Proofs.DoubleOrder
import Formula.Proofs.WrittenDoubles

namespace Formula

namespace Double

open Float.Model UnpackedFloat

variable {bits n : Nat} {negative : Bool} {u v : UnpackedFloat} {x y : Float}

theorem isFinite_of_decodes (h : Decodes negative bits u) :
    decide (bits < infinity) = u.isFinite := by
  cases h with
  | zero => rfl
  | finite _ _ _ _ _ below => exact decide_eq_true below
  | infinity => rfl
  | notANumber above => exact decide_eq_false (Nat.not_lt_of_gt above)

theorem isFinite_eq (x : Float) : isFinite x = x.isFinite :=
  isFinite_of_decodes (decodes x)

/-! A minus sign changes the sign bit alone. -/

/-- Decoding is unambiguous. -/
theorem Decodes.unique (h : Decodes negative bits u) (h' : Decodes negative n v)
    (same : bits = n) : u = v := by
  have top : Double.infinity = 2047 * 2 ^ 52 := rfl
  cases h with
  | zero =>
    cases h' with
    | zero => rfl
    | finite | infinity | notANumber => omega
  | finite block m pos lt full below =>
    cases h' with
    | finite block' m' pos' lt' full' below' =>
      obtain ⟨rfl, rfl⟩ : block = block' ∧ m = m' := by omega
      rfl
    | zero | infinity | notANumber => omega
  | infinity =>
    cases h' with
    | infinity => rfl
    | zero | finite | notANumber => omega
  | notANumber above =>
    cases h' with
    | notANumber => rfl
    | zero | finite | infinity => omega

theorem Decodes.neg (h : Decodes negative bits u) : Decodes (!negative) bits u.neg := by
  have opposite : signOf (!negative) = -signOf negative := by cases negative <;> rfl
  cases h with
  | zero =>
    rw [UnpackedFloat.neg, ← opposite]
    exact .zero
  | finite block m pos lt full below =>
    rw [UnpackedFloat.neg, ← opposite]
    exact .finite block m pos lt full below
  | infinity =>
    rw [UnpackedFloat.neg, ← opposite]
    exact .infinity
  | notANumber above => exact .notANumber above

/-- What a double is decoded as is encoded as this double. -/
theorem ofModel_pack (h : u = x.toModel.unpack) : Float.ofModel (Float.Model.pack u) = x := by
  have packed := pack_unpack_of_valid x.toModel.valid
  rw [← Float.toBits_inj, h]
  exact congrArg UInt64.ofBitVec packed

theorem neg_ofMagnitude (negative : Bool) (le : bits ≤ infinity) :
    -ofMagnitude negative bits = ofMagnitude (!negative) bits := by
  have left := (decodes (ofMagnitude negative bits)).neg
  have right := decodes (ofMagnitude (!negative) bits)
  rw [isNegative_ofMagnitude _ le, magnitude_ofMagnitude _ le] at left right
  exact ofModel_pack (left.unique right rfl)

/-- There is one double that is not a number. -/
theorem eq_nan (h : x.isNaN = true) : x = nan := by
  have unpacked : x.toModel.unpack = .notANumber := isNaN_iff.mp h
  have whole : nan.toModel.unpack = .notANumber := isNaN_iff.mp (by decide)
  exact (ofModel_pack unpacked.symm).symm.trans (ofModel_pack whole.symm)

/-! The doubles that are no finite numbers have names. -/

theorem read?_nan : read? "NaN" = some nan := by
  simp [read?, unsigned?]

theorem read?_infinity : read? "inf" = some (ofMagnitude false infinity) := by
  simp [read?, unsigned?]

theorem read?_minusInfinity : read? "-inf" = some (ofMagnitude true infinity) := by
  simp [read?, unsigned?]

end Double

namespace Value

variable {x : Float}

/-- Every text of a double is read as this double. -/
theorem read?_doubleText (x : Float) : Double.read? (doubleText x) = some x := by
  rw [doubleText]
  split
  case isTrue finite => exact Double.read?_writeSigned (.inl rfl) finite
  case isFalse large =>
    split
    case isTrue unnumbered =>
      rw [Double.eq_nan unnumbered]
      exact Double.read?_nan
    case isFalse number =>
      have le := Double.magnitude_le_of_number (eq_false_of_ne_true number)
      have infinite : Double.magnitude x = Double.infinity := by
        refine Nat.le_antisymm le (Nat.not_lt.mp ?_)
        simpa [Double.isFinite] using large
      have whole := Double.ofMagnitude_magnitude x
      rw [infinite] at whole
      split
      case isTrue negative =>
        rw [negative] at whole
        rw [← whole]
        exact Double.read?_minusInfinity
      case isFalse positive =>
        rw [eq_false_of_ne_true positive] at whole
        rw [← whole]
        exact Double.read?_infinity

theorem ofNumber_doubleText (x : Float) : ofNumber (doubleText x) = .ok (.double x) := by
  rw [ofNumber, read?_doubleText]

/-- The text of a magnitude is a number. -/
theorem isNumber_displayed (bits : Nat) : IsNumber (displayed.write bits) :=
  exists_denotes_iff.mp ⟨_, Double.denotes_write (.inl rfl) bits⟩

theorem doubleText_ofMagnitude (negative : Bool) (lt : bits < Double.infinity) :
    doubleText (Double.ofMagnitude negative bits) =
      (if negative then "-" else "") ++ displayed.write bits := by
  have le := Nat.le_of_lt lt
  rw [doubleText, Double.isFinite, Double.magnitude_ofMagnitude negative le,
    if_pos (decide_eq_true lt), Double.Layout.writeSigned,
    Double.isNegative_ofMagnitude negative le, Double.magnitude_ofMagnitude negative le]

end Value

/-- A minus in front of a number. -/
def Node.negated (text : String) : Node :=
  .operator (.sign .minus) [.leaf .number text]

theorem Node.eval_negated (host : Host V F σ) (context : Context V F) {text : String}
    (read : Double.read? text = some x) :
    (negated text).eval host context = pure (.double (-x)) := by
  rw [negated, operator, eval, eval_number host context read]
  rfl

namespace Builder

theorem parse_minus_number (builder : Builder V F) {text : String} (number : IsNumber text)
    (room : 1 < builder.limit) :
    builder.parse ("-" ++ text) = .ok ⟨.negated text, builder.context⟩ := by
  have minus : Reading.ofText (['-'] ++ text.toList) = .token .minus 1 := rfl
  have layout : Layout ("-" ++ text).toList [.minus, .number text] := by
    rw [String.toList_append]
    exact .word blank_nil minus (by simp) (.single (.number number))
  refine parse_of_layout builder layout ?_ room
  exact (Derives.sign .minus (.unsigned .number)).of_signed

theorem eval_magnitude (host : Host V F σ) {builder : Builder V F} (room : 1 < builder.limit)
    (negative : Bool) (lt : bits < Double.infinity) (s : σ) :
    builder.eval host (Value.doubleText (Double.ofMagnitude negative bits)) s =
      .ok (.double (Double.ofMagnitude negative bits)) s := by
  have number := Value.isNumber_displayed bits
  -- The sign is no part of the number that is read.
  have read := Value.read?_doubleText (Double.ofMagnitude false bits)
  rw [Value.doubleText_ofMagnitude _ lt, if_neg Bool.false_ne_true, String.empty_append] at read
  rw [Value.doubleText_ofMagnitude _ lt]
  cases negative with
  | false =>
    exact eval_of_parse (parse_number builder number (Nat.lt_of_succ_lt room))
      (Node.eval_number host _ read) s
  | true =>
    have opposite := Double.neg_ofMagnitude false (Nat.le_of_lt lt)
    have value := Node.eval_negated host builder.context read
    rw [opposite] at value
    exact eval_of_parse (parse_minus_number builder number room) value s

/-- A double is read back from its text as it is, by itself and, where it is finite, as an
expression. -/
theorem eval_doubleText (host : Host V F σ) (builder : Builder V F) (room : 1 < builder.limit)
    (x : Float) : Value.ofNumber (Value.doubleText x) = .ok (.double x) ∧
      (x.isFinite = true → ∀ s,
        builder.eval host (Value.doubleText x) s = .ok (.double x) s) := by
  refine ⟨Value.ofNumber_doubleText x, fun finite s => ?_⟩
  rw [← Double.isFinite_eq] at finite
  rw [← Double.ofMagnitude_magnitude x]
  exact eval_magnitude host room _ (of_decide_eq_true finite) s

/-- The negative zero and the negative number closest to it, with the bindings of the language. -/
theorem eval_doubleText_signed :
    1 < (standard : Builder (Variable Value) (Function Value)).limit ∧
      (Float.ofBits 0x8000000000000000).isFinite = true ∧
      (Float.ofBits 0x8000000000000001).isFinite = true ∧
      ∀ host : Host (Variable Value) (Function Value) Unit,
        standard.eval host (Value.doubleText (.ofBits 0x8000000000000000)) () =
          .ok (.double (.ofBits 0x8000000000000000)) () ∧
        standard.eval host (Value.doubleText (.ofBits 0x8000000000000001)) () =
          .ok (.double (.ofBits 0x8000000000000001)) () := by
  have room : 1 < (standard : Builder (Variable Value) (Function Value)).limit := by decide
  have zero : (Float.ofBits 0x8000000000000000).isFinite = true := by decide
  have closest : (Float.ofBits 0x8000000000000001).isFinite = true := by decide
  refine ⟨room, zero, closest, fun host => ⟨?_, ?_⟩⟩
  · exact (eval_doubleText host standard room _).2 zero ()
  · exact (eval_doubleText host standard room _).2 closest ()

end Builder
end Formula
