import Formula.Proofs.ClosestDoubles
import Formula.Proofs.Layouts
import Formula.Proofs.Stateless

namespace Formula

/-- The exact number that a numeral stands for. The digits behind the point are a decimal
fraction. -/
inductive Denotes : List Char → ℚ → Prop where
  | whole (digits : Digits ds) (raised : Raises exponent e) :
      Denotes (ds ++ exponent) (Nat.ofDigitChars 10 ds 0 * 10 ^ e)
  | pointed (digits : ∀ c ∈ ds, c.isDigit = true) (places : Digits ps)
      (raised : Raises exponent e) :
      Denotes (ds ++ '.' :: (ps ++ exponent))
        ((Nat.ofDigitChars 10 ds 0 + Nat.ofDigitChars 10 ps 0 / 10 ^ ps.length) * 10 ^ e)

variable {text ds ps exponent : List Char} {e : Int} {q r : ℚ}

/-! Digits that are written. -/

theorem isDigit_zeros (n : Nat) : ∀ c ∈ List.replicate n '0', c.isDigit = true := by
  intro c hc
  simp [List.eq_of_mem_replicate hc]

theorem digits_toString (n : Nat) : Digits (toString n).toList := by
  rw [Nat.toString_eq_ofList_toDigits, String.toList_ofList]
  exact ⟨Nat.toDigits_ne_nil, fun c hc => Nat.isDigit_of_mem_toDigits (by simp) (by simp) hc⟩

theorem ofDigitChars_toString (n : Nat) : Nat.ofDigitChars 10 (toString n).toList 0 = n := by
  rw [Nat.toString_eq_ofList_toDigits, String.toList_ofList, Nat.ofDigitChars_ten_toDigits]

/-! Numerals are what denotes a number. -/

theorem Denotes.parts (h : Denotes text q) : ∃ whole fraction exponent,
    text = whole ++ (fraction ++ exponent) ∧ NumberParts whole fraction exponent := by
  cases h with
  | whole digits raised =>
    exact ⟨_, [], _, rfl, digits.2, .inl rfl, raised.shape, .inl digits.1⟩
  | pointed digits places raised =>
    exact ⟨_, '.' :: _, _, rfl, digits, .inr ⟨_, rfl, places⟩, raised.shape, .inr (by simp)⟩

theorem exists_denotes_iff {text : String} : (∃ q, Denotes text.toList q) ↔ IsNumber text := by
  constructor
  · intro ⟨q, h⟩
    exact h.parts
  · intro ⟨whole, fraction, exponent, spelled, parts⟩
    obtain ⟨e, raised⟩ := parts.mark.raises
    rw [spelled]
    obtain rfl | ⟨ps, rfl, places⟩ := parts.point
    · have present : whole ≠ [] := parts.present.resolve_right (by simp)
      exact ⟨_, .whole ⟨present, parts.digits⟩ raised⟩
    · exact ⟨_, .pointed parts.digits places raised⟩

namespace Double

/-! Reading a numeral gives what it denotes, rounded. -/

/-- Digits in front of a point and behind it are the digits of one decimal. -/
theorem value_places (ds ps : List Char) (e : Int) :
    Decimal.value ⟨digitsValue (ds ++ ps), e - ps.length⟩ =
      (Nat.ofDigitChars 10 ds 0 + Nat.ofDigitChars 10 ps 0 / 10 ^ ps.length) * 10 ^ e := by
  have ten : (10 : ℚ) ≠ 0 := by norm_num
  rw [Decimal.value, digitsValue_eq, Nat.ofDigitChars_append, Nat.ofDigitChars_eq_ofDigitChars_zero,
    zpow_sub₀ ten, zpow_natCast]
  push_cast
  field_simp

/-- Numerals are read as what they denote. -/
theorem numeral?_denotes (h : Denotes text q) : ∃ d, numeral? text = some d ∧ d.value = q := by
  cases h with
  | @whole ds exponent e digits raised =>
    refine ⟨_, numeral?_whole digits raised, ?_⟩
    rw [Decimal.value, digitsValue_eq]
  | @pointed ds ps exponent e digits places raised =>
    exact ⟨_, numeral?_pointed digits places raised, value_places ds ps e⟩

/-- A number is rounded to the closest double. -/
theorem unsigned?_denotes (h : Denotes text q) (negative : Bool) : ∃ d : Decimal,
    d.value = q ∧ unsigned? negative text = some (ofMagnitude negative d.bits) := by
  obtain ⟨d, read, value⟩ := numeral?_denotes h
  obtain ⟨whole, fraction, exponent, rfl, parts⟩ := h.parts
  exact ⟨d, value, unsigned?_numeral parts negative read⟩

theorem read?_denotes {text : String} (h : Denotes text.toList q) : ∃ d : Decimal,
    d.value = q ∧ read? text = some (ofMagnitude false d.bits) := by
  obtain ⟨d, read, value⟩ := numeral?_denotes h
  obtain ⟨whole, fraction, exponent, spelled, parts⟩ := h.parts
  rw [spelled] at read
  refine ⟨d, value, ?_⟩
  rw [← String.ofList_toList (s := text), spelled]
  exact read?_numeral parts read

/-- What is read of numerals of the same value is the same. -/
theorem read?_congr {text other : String} (h : Denotes text.toList q)
    (h' : Denotes other.toList q) : read? text = read? other := by
  obtain ⟨d, value, read⟩ := read?_denotes h
  obtain ⟨d', value', read'⟩ := read?_denotes h'
  rw [read, read', Decimal.bits_congr (value.trans value'.symm)]

end Double

/-- A numeral denotes a single number. -/
theorem Denotes.unique (h : Denotes text q) (h' : Denotes text r) : q = r := by
  obtain ⟨d, read, rfl⟩ := Double.numeral?_denotes h
  obtain ⟨d', read', rfl⟩ := Double.numeral?_denotes h'
  rw [Option.some.inj (read.symm.trans read')]

theorem Denotes.roundsTo {text : String} (h : Denotes text.toList q) :
    ∃ x, Double.read? text = some x ∧ Double.RoundsTo q x := by
  obtain ⟨d, rfl, read⟩ := Double.read?_denotes h
  exact ⟨_, read, Double.roundsTo_ofMagnitude d.value_nonneg d.isClosest_bits⟩

theorem Lexer.isNumber_of_next {text : String} (h : next lexer = .ok (.number text) after) :
    IsNumber text := by
  obtain ⟨length, read, -⟩ := next_ok h
  have lexeme := Reading.ofText_lexeme read (by simp)
  generalize List.take length _ = word at lexeme
  cases lexeme with
  | number number => exact number
  | symbol listed => simp [symbols] at listed

theorem Node.eval_number (host : Host V F σ) (context : Context V F) {text : String}
    (read : Double.read? text = some x) :
    (leaf .number text).eval host context = pure (.double x) := by
  rw [leaf, Node.eval, Value.ofNumber, read]
  rfl

namespace Builder

theorem parse_number (builder : Builder V F) {text : String} (number : IsNumber text)
    (room : 0 < builder.limit) :
    builder.parse text = .ok ⟨.leaf .number text, builder.context⟩ :=
  parse_of_layout builder (.single (.number number)) (Derives.number.of_atom trivial) room

/-- A text whose tree has a value has this value. -/
theorem eval_of_parse {builder : Builder V F} {host : Host V F σ} {text : String} {root : Node}
    (parsed : builder.parse text = .ok ⟨root, builder.context⟩)
    (value : root.eval host builder.context = pure v) (s : σ) :
    builder.eval host text s = .ok v s := by
  rw [eval, parsed]
  change EStateM.adaptExcept Failure.eval (Expression.eval host ⟨root, builder.context⟩) s = _
  rw [Expression.eval, value]
  rfl

/-- A number that is read anywhere stands for one exact number, and its value is what this number is
rounded to, in every context and by itself. So is the value of every numeral that stands for the
same number. -/
theorem eval_number_closest (host : Host V F σ) (builder : Builder V F) (room : 0 < builder.limit)
    (lexer after : Lexer) (text : String) (found : Lexer.next lexer = .ok (.number text) after) :
    ∃ q x, (∀ r, Denotes text.toList r ↔ r = q) ∧ Double.RoundsTo q x ∧
      (∀ context : Context V F, (Node.leaf .number text).eval host context = pure (.double x)) ∧
      ∀ other : String, Denotes other.toList q → ∀ s,
        builder.eval host other s = .ok (.double x) s := by
  obtain ⟨q, denotes⟩ := exists_denotes_iff.mpr (Lexer.isNumber_of_next found)
  obtain ⟨x, read, rounded⟩ := denotes.roundsTo
  refine ⟨q, x, fun r => ⟨fun h => h.unique denotes, fun h => h ▸ denotes⟩, rounded,
    fun context => Node.eval_number host context read, fun other same s => ?_⟩
  have number : IsNumber other := exists_denotes_iff.mp ⟨q, same⟩
  have read' : Double.read? other = some x := (Double.read?_congr same denotes).trans read
  exact eval_of_parse (parse_number builder number room) (Node.eval_number host _ read') s

/-- A number in the middle between two doubles. In the second text it has another spelling. -/
theorem eval_number_closest_tie :
    Lexer.next ⟨"-9007199254740993", "9007199254740993".toList, 1, 0⟩ =
        .ok (.number "9007199254740993") ⟨"-9007199254740993", [], 17, 1⟩ ∧
      ∃ x, Double.RoundsTo 9007199254740993 x ∧
        (empty : Builder Value Value).eval .constants "900719925474099.30E+01" () =
          .ok (.double x) () := by
  have found : Lexer.next ⟨"-9007199254740993", "9007199254740993".toList, 1, 0⟩ =
      .ok (.number "9007199254740993") ⟨"-9007199254740993", [], 17, 1⟩ := by cbv
  obtain ⟨q, x, only, rounded, -, same⟩ :=
    eval_number_closest .constants (empty : Builder Value Value) (by decide) _ _ _ found
  have whole : Denotes "9007199254740993".toList 9007199254740993 := by
    have digits : Digits "9007199254740993".toList := by simp [Digits]
    have denotes := Denotes.whole digits .absent
    have value : Nat.ofDigitChars 10 "9007199254740993".toList 0 = 9007199254740993 := by decide
    rw [value] at denotes
    simpa using denotes
  have shifted : Denotes "900719925474099.30E+01".toList 9007199254740993 := by
    have digits : Digits "900719925474099".toList := by simp [Digits]
    have places : Digits "30".toList := by simp [Digits]
    have power : Digits "01".toList := by simp [Digits]
    have denotes := Denotes.pointed digits.2 places
      (Raises.up (m := 'E') (.inr rfl) (.inr rfl) power)
    have front : Nat.ofDigitChars 10 "900719925474099".toList 0 = 900719925474099 := by decide
    have behind : Nat.ofDigitChars 10 "30".toList 0 = 30 := by decide
    have one : Nat.ofDigitChars 10 "01".toList 0 = 1 := by decide
    have length : "30".toList.length = 2 := rfl
    have value : ((900719925474099 : Nat) + (30 : Nat) / 10 ^ 2 : ℚ) * 10 ^ ((1 : Nat) : Int) =
        9007199254740993 := by norm_num
    rw [front, behind, one, length, value] at denotes
    exact denotes
  obtain rfl := (only _).mp whole
  exact ⟨found, x, rounded, same _ shifted ()⟩

end Builder
end Formula
