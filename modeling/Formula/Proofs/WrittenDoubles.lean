import Formula.Double.Text
import Formula.Proofs.NumeralValues

namespace Formula.Double

variable {layout : Layout} {tie : Tie} {bits lead width count : Nat} {d : Decimal}
  {ds ps exponent : List Char} {e power : Int} {x : Float}

/-! The decimal that is written for a magnitude is rounded to it. -/

theorem readable?_bits (h : readable? tie bits lead width count = some d) : d.bits = bits := by
  unfold readable? at h
  -- Which of two candidates is nearer does not matter here.
  generalize compareMidpoint bits lead width count = midpoint at h
  generalize neighbours lead width count = candidates at h
  obtain ⟨low, high⟩ := candidates
  dsimp only at h
  cases below : low.bits == bits with
  | false =>
    cases above : high.bits == bits with
    | false => simp [below, above] at h
    | true =>
      obtain rfl : high = d := by simpa [below, above] using h
      exact beq_iff_eq.mp above
  | true =>
    cases above : high.bits == bits with
    | false =>
      obtain rfl : low = d := by simpa [below, above] using h
      exact beq_iff_eq.mp below
    | true =>
      have chosen : low = d ∨ high = d := by
        rw [below, above] at h
        cases midpoint with
        | lt => exact .inr (Option.some.inj h)
        | eq =>
          cases tie with
          | up => exact .inr (Option.some.inj h)
          | even =>
            have pick : (if low.digits % 2 = 0 then low else high) = d := Option.some.inj h
            rw [← pick]
            split
            · exact .inl rfl
            · exact .inr rfl
        | gt => exact .inl (Option.some.inj h)
      rcases chosen with rfl | rfl
      · exact beq_iff_eq.mp below
      · exact beq_iff_eq.mp above

/-- With enough digits a magnitude is written exactly. -/
theorem value_units (bits : Nat) :
    Decimal.value ⟨units bits * Nat.pow 5 1074, -1074⟩ * unitsPerOne = units bits := by
  obtain ⟨n, hn, power⟩ := unitsPerOne_eq
  have exponent : (-1074 : Int) = -(n : Int) := by
    rw [hn]
    rfl
  have ten : (10 : ℚ) ^ n = 5 ^ n * 2 ^ n := by rw [← mul_pow]; norm_num
  rw [Decimal.value, power, exponent, ← hn, Nat.pow_eq, Nat.pow_eq, zpow_neg, zpow_natCast, ten]
  push_cast
  field_simp

theorem bits_shortest (tie : Tie) (le : bits ≤ infinity) : (shortest tie bits).bits = bits := by
  unfold shortest
  split
  case isTrue zero =>
    rw [zero]
    rfl
  case isFalse =>
    dsimp only
    cases found : (List.range 17).findSome? _ with
    | some d =>
      obtain ⟨n, -, hd⟩ := List.exists_of_findSome?_eq_some found
      exact readable?_bits hd
    | none => exact Decimal.bits_exact le (value_units bits)

/-! The text of a magnitude denotes this decimal. -/

theorem denotes_whole (digits : Digits ds) (raised : Raises exponent e) :
    Denotes (ds ++ exponent) (Decimal.value ⟨digitsValue ds, e⟩) := by
  rw [digitsValue_eq]
  exact .whole digits raised

theorem denotes_pointed (digits : ∀ c ∈ ds, c.isDigit = true) (places : Digits ps)
    (raised : Raises exponent e) : Denotes (ds ++ '.' :: (ps ++ exponent))
      (Decimal.value ⟨digitsValue (ds ++ ps), e - ps.length⟩) := by
  rw [value_places]
  exact .pointed digits places raised

theorem digitsValue_append_zeros (ds : List Char) (n : Nat) :
    digitsValue (ds ++ List.replicate n '0') = 10 ^ n * digitsValue ds := by
  rw [digitsValue_eq, digitsValue_eq, Nat.ofDigitChars_append, Nat.ofDigitChars_replicate_zero]

theorem digitsValue_zeros_append (n : Nat) (ds : List Char) :
    digitsValue (List.replicate n '0' ++ ds) = digitsValue ds := by
  rw [digitsValue_eq, digitsValue_eq, Nat.ofDigitChars_append, Nat.ofDigitChars_replicate_zero,
    Nat.mul_zero]

theorem value_shift (digits n : Nat) (e : Int) :
    Decimal.value ⟨10 ^ n * digits, e⟩ = Decimal.value ⟨digits, e + n⟩ := by
  have ten : (10 : ℚ) ≠ 0 := by norm_num
  simp only [Decimal.value, zpow_add₀ ten, zpow_natCast]
  push_cast
  ring

theorem denotes_whole_ended {wholeEnd : String} (ending : wholeEnd = "" ∨ wholeEnd = ".0")
    (digits : Digits ds) :
    Denotes (ds ++ wholeEnd.toList) (Decimal.value ⟨digitsValue ds, 0⟩) := by
  rcases ending with rfl | rfl
  · exact denotes_whole digits .absent
  · have zero : Digits ['0'] := by simp [Digits]
    have tenths := denotes_pointed digits.2 zero .absent
    have shifted := digitsValue_append_zeros ds 1
    rw [List.replicate_one] at shifted
    rw [shifted, value_shift] at tenths
    exact tenths

theorem denotes_positional {wholeEnd : String} (ending : wholeEnd = "" ∨ wholeEnd = ".0")
    (digits : Digits ds) (e : Int) :
    Denotes (positionalText wholeEnd ds e).toList (Decimal.value ⟨digitsValue ds, e⟩) := by
  cases e with
  | ofNat zeros =>
    have denotes := denotes_whole_ended ending (digits_append_right digits (isDigit_zeros zeros))
    rw [digitsValue_append_zeros, value_shift, Int.zero_add] at denotes
    rw [positionalText, String.toList_append, String.toList_ofList]
    exact denotes
  | negSucc n =>
    rw [positionalText]
    dsimp only
    split
    case isTrue inside =>
      have front : ∀ c ∈ ds.take (ds.length - (n + 1)), c.isDigit = true :=
        fun c hc => digits.2 c (List.mem_of_mem_take hc)
      have behind : Digits (ds.drop (ds.length - (n + 1))) :=
        ⟨by simpa using Nat.zero_lt_of_lt inside, fun c hc => digits.2 c (List.mem_of_mem_drop hc)⟩
      have denotes := denotes_pointed front behind .absent
      have length : (ds.drop (ds.length - (n + 1))).length = n + 1 := by
        rw [List.length_drop]
        omega
      rw [List.take_append_drop, List.append_nil, length, Int.zero_sub] at denotes
      rw [String.toList_ofList]
      exact denotes
    case isFalse outside =>
      have places := digits_append_left (isDigit_zeros (n + 1 - ds.length)) digits
      have front : ∀ c ∈ ['0'], c.isDigit = true := by simp
      have denotes := denotes_pointed front places .absent
      have length : (List.replicate (n + 1 - ds.length) '0' ++ ds).length = n + 1 := by
        rw [List.length_append, List.length_replicate]
        omega
      have leading : digitsValue (['0'] ++ (List.replicate (n + 1 - ds.length) '0' ++ ds)) =
          digitsValue ds := digitsValue_zeros_append (n + 1 - ds.length + 1) ds
      rw [leading, List.append_nil, length, Int.zero_sub] at denotes
      simp only [String.toList_append, String.toList_ofList]
      exact denotes

theorem raises_toString (power : Int) :
    Raises ((if power < 0 then "e-" else "e+") ++ toString power.natAbs).toList power := by
  have digits := digits_toString power.natAbs
  have value := ofDigitChars_toString power.natAbs
  rw [String.toList_append]
  split
  case isTrue negative =>
    have raised := Raises.down (m := 'e') (.inl rfl) digits
    rw [value, show -(power.natAbs : Int) = power by omega] at raised
    exact raised
  case isFalse positive =>
    have raised := Raises.up (m := 'e') (.inl rfl) (.inr rfl) digits
    rw [value, show (power.natAbs : Int) = power by omega] at raised
    exact raised

theorem denotes_scientific (digits : Digits ds) (power : Int) :
    Denotes (scientificText ds power).toList
      (Decimal.value ⟨digitsValue ds, power + 1 - ds.length⟩) := by
  have raised := raises_toString power
  unfold scientificText
  rw [String.append_assoc, String.toList_append, String.toList_ofList]
  generalize String.toList (_ ++ toString power.natAbs) = exponent at *
  split
  case h_1 first second rest =>
    have front : ∀ c ∈ [first], c.isDigit = true := by
      simpa using digits.2 first (List.mem_cons_self ..)
    have behind : Digits (second :: rest) :=
      ⟨by simp, fun c hc => digits.2 c (List.mem_cons_of_mem first hc)⟩
    have denotes := denotes_pointed front behind raised
    have shift : power + 1 - (first :: second :: rest).length =
        power - (second :: rest).length := by
      simp only [List.length_cons]
      omega
    rw [shift]
    exact denotes
  case h_2 single =>
    obtain ⟨c, rest, rfl, -⟩ := digits_head digits
    cases rest with
    | nil =>
      have denotes := denotes_whole digits raised
      simpa using denotes
    | cons d rest => exact absurd rfl (single c d rest)

/-- What is written for a magnitude. -/
theorem denotes_write (ending : layout.wholeEnd = "" ∨ layout.wholeEnd = ".0") (bits : Nat) :
    Denotes (layout.write bits).toList (shortest layout.tie bits).value := by
  unfold Layout.write
  generalize shortest layout.tie bits = d
  have digits := digits_toString d.digits
  have value := ofDigitChars_toString d.digits
  rw [← digitsValue_eq] at value
  dsimp only
  split
  case isTrue =>
    have denotes := denotes_positional ending digits d.exponent
    rwa [value] at denotes
  case isFalse =>
    have denotes := denotes_scientific digits
      (d.exponent + (toString d.digits).toList.length - 1)
    rwa [value, Int.sub_add_cancel, Int.add_sub_cancel] at denotes

/-- The text of a finite double is read as this double. -/
theorem read?_writeSigned (ending : layout.wholeEnd = "" ∨ layout.wholeEnd = ".0")
    (finite : isFinite x = true) : read? (layout.writeSigned x) = some x := by
  have le : magnitude x ≤ infinity := Nat.le_of_lt (of_decide_eq_true finite)
  have denotes := denotes_write ending (magnitude x)
  have whole := ofMagnitude_magnitude x
  rw [Layout.writeSigned]
  cases sign : isNegative x with
  | false =>
    obtain ⟨d, value, read⟩ := read?_denotes denotes
    rw [sign] at whole
    rw [Decimal.bits_congr value, bits_shortest _ le, whole] at read
    simpa using read
  | true =>
    obtain ⟨d, value, read⟩ := unsigned?_denotes denotes true
    rw [sign] at whole
    rw [Decimal.bits_congr value, bits_shortest _ le, whole] at read
    rw [← read]
    simp [read?]

end Formula.Double
