import Formula.Proofs.TokenStream
import Formula.Value

namespace Formula

/-- At least one digit and nothing else. -/
def Digits (ds : List Char) : Prop :=
  ds ≠ [] ∧ ∀ c ∈ ds, c.isDigit = true

/-- What can stand behind the point of a number. -/
def Fraction (text : List Char) : Prop :=
  text = [] ∨ ∃ ds, text = '.' :: ds ∧ Digits ds

/-- An exponent with its mark and an optional sign, or none. -/
def Exponent (text : List Char) : Prop :=
  text = [] ∨ ∃ mark sign ds, text = mark :: (sign ++ ds) ∧ (mark = 'e' ∨ mark = 'E') ∧
    (sign = [] ∨ sign = ['+'] ∨ sign = ['-']) ∧ Digits ds

/-- The parts of a number: digits, a fraction and an exponent. There are digits in front of the
point or behind it. -/
structure NumberParts (whole fraction exponent : List Char) : Prop where
  digits : ∀ c ∈ whole, c.isDigit = true
  point : Fraction fraction
  mark : Exponent exponent
  present : whole ≠ [] ∨ fraction ≠ []

/-- The power of ten that an exponent stands for. -/
inductive Raises : List Char → Int → Prop where
  | absent : Raises [] 0
  | up (mark : m = 'e' ∨ m = 'E') (signed : sign = [] ∨ sign = ['+']) (digits : Digits ds) :
      Raises (m :: (sign ++ ds)) (Nat.ofDigitChars 10 ds 0)
  | down (mark : m = 'e' ∨ m = 'E') (digits : Digits ds) :
      Raises (m :: '-' :: ds) (-Nat.ofDigitChars 10 ds 0)

theorem digits_head (h : Digits ds) : ∃ d rest, ds = d :: rest ∧ d.isDigit = true := by
  obtain ⟨hne, hall⟩ := h
  cases ds with
  | nil => exact absurd rfl hne
  | cons d rest => exact ⟨d, rest, rfl, hall d (List.mem_cons_self ..)⟩

theorem digits_append_left (front : ∀ c ∈ cs, c.isDigit = true) (h : Digits ds) :
    Digits (cs ++ ds) :=
  ⟨by simp [h.1], List.forall_mem_append.mpr ⟨front, h.2⟩⟩

theorem digits_append_right (h : Digits ds) (behind : ∀ c ∈ cs, c.isDigit = true) :
    Digits (ds ++ cs) :=
  ⟨by simp [h.1], List.forall_mem_append.mpr ⟨h.2, behind⟩⟩

/-- A number starts with a digit or a point. -/
theorem NumberParts.head (h : NumberParts whole fraction exponent) :
    ∃ c cs, whole ++ (fraction ++ exponent) = c :: cs ∧ (c = '.' ∨ c.isDigit = true) := by
  cases whole with
  | cons c cs => exact ⟨c, _, rfl, .inr (h.digits c (List.mem_cons_self ..))⟩
  | nil =>
    obtain rfl | ⟨ds, rfl, -⟩ := h.point
    · simpa using h.present
    · exact ⟨'.', _, rfl, .inl rfl⟩

theorem Raises.shape (h : Raises text e) : Exponent text := by
  cases h with
  | absent => exact .inl rfl
  | up mark signed digits => exact .inr ⟨_, _, _, rfl, mark, signed.imp_right .inl, digits⟩
  | down mark digits => exact .inr ⟨_, ['-'], _, rfl, mark, .inr (.inr rfl), digits⟩

theorem Exponent.raises (h : Exponent text) : ∃ e, Raises text e := by
  obtain rfl | ⟨m, sign, ds, rfl, mark, rfl | rfl | rfl, digits⟩ := h
  · exact ⟨_, .absent⟩
  · exact ⟨_, .up mark (.inl rfl) digits⟩
  · exact ⟨_, .up mark (.inr rfl) digits⟩
  · exact ⟨_, .down mark digits⟩

theorem digits_of_startsWithDigit (h : Reading.startsWithDigit text = true) :
    Digits (text.takeWhile Char.isDigit) := by
  cases text with
  | nil => cases h
  | cons c rest =>
    have hc : c.isDigit = true := h
    refine ⟨by simp [hc], ?_⟩
    intro d hd
    exact List.all_eq_true.mp List.all_takeWhile d hd

namespace Reading

theorem fraction?_shape (h : fraction? text = some fraction) : Fraction fraction := by
  unfold fraction? at h
  split at h
  · split at h
    · cases h
      exact .inr ⟨_, rfl, digits_of_startsWithDigit ‹_›⟩
    · cases h
  · cases h
    exact .inl rfl

theorem exponent?_shape (h : exponent? text = some exponent) : Exponent exponent := by
  unfold exponent? at h
  split at h
  · rename_i mark rest
    split at h
    · rename_i hmark
      split at h
      rename_i sign digits hsplit
      split at h
      · cases h
        refine .inr ⟨mark, sign, _, rfl, by simpa using hmark, ?_, digits_of_startsWithDigit ‹_›⟩
        split at hsplit <;> cases hsplit <;> simp
      · cases h
    · cases h
      exact .inl rfl
  · cases h
    exact .inl rfl

end Reading

namespace Double

theorem digitsValue_eq (ds : List Char) : digitsValue ds = Nat.ofDigitChars 10 ds 0 :=
  Nat.ofDigitChars_eq_foldl.symm

/-- Digits in front of something else are found as a whole. -/
theorem span_digits {ds rest : List Char} (inside : ∀ c ∈ ds, c.isDigit = true)
    (boundary : ∀ c, rest.head? = some c → c.isDigit = false) :
    (ds ++ rest).takeWhile Char.isDigit = ds ∧ (ds ++ rest).dropWhile Char.isDigit = rest := by
  rw [List.takeWhile_append_of_pos inside, List.dropWhile_append_of_pos inside]
  cases rest with
  | nil => simp
  | cons c rest => simp [boundary c rfl]

theorem Exponent.boundary (h : Exponent text) (c : Char) (hc : text.head? = some c) :
    c.isDigit = false ∧ c ≠ '.' := by
  obtain rfl | ⟨mark, sign, ds, rfl, hmark, -, -⟩ := h
  · cases hc
  · cases hc
    rcases hmark with rfl | rfl <;> decide

theorem exponent?_raises (h : Raises text e) : exponent? text = some e := by
  cases h with
  | absent => rfl
  | @up m sign ds mark signed digits =>
    obtain ⟨d, rest, rfl, hd⟩ := digits_head digits
    have hm : (m == 'e' || m == 'E') = true := by simpa using mark
    have all := digits.2
    rw [← digitsValue_eq]
    rcases signed with rfl | rfl
    · have plus : d ≠ '+' := fun same => by simp [same] at hd
      have minus : d ≠ '-' := fun same => by simp [same] at hd
      simp_all [exponent?]
    · simp_all [exponent?]
  | @down m ds mark digits =>
    have hm : (m == 'e' || m == 'E') = true := by simpa using mark
    have all := digits.2
    have some := digits.1
    rw [← digitsValue_eq]
    simp_all [exponent?]

/-- A numeral without a point. -/
theorem numeral?_whole (digits : Digits ds) (raised : Raises exponent e) :
    numeral? (ds ++ exponent) = some ⟨digitsValue ds, e⟩ := by
  have read := exponent?_raises raised
  have boundary := Exponent.boundary raised.shape
  obtain ⟨taken, left⟩ := span_digits digits.2 fun c hc => (boundary c hc).1
  cases exponent with
  | nil =>
    rw [List.append_nil] at taken left
    simp [numeral?, taken, left, digits.1, read]
  | cons mark rest =>
    have unlike := (boundary mark rfl).2
    simp [numeral?, taken, left, digits.1, unlike, read]

/-- A numeral with a point. -/
theorem numeral?_pointed (digits : ∀ c ∈ ds, c.isDigit = true) (places : Digits ps)
    (raised : Raises exponent e) : numeral? (ds ++ '.' :: (ps ++ exponent)) =
      some ⟨digitsValue (ds ++ ps), e - ps.length⟩ := by
  have read := exponent?_raises raised
  have boundary := Exponent.boundary raised.shape
  have point : ∀ c, ('.' :: (ps ++ exponent)).head? = some c → c.isDigit = false := by simp
  obtain ⟨taken, left⟩ := span_digits digits point
  obtain ⟨taken', left'⟩ := span_digits places.2 fun c hc => (boundary c hc).1
  simp [numeral?, taken, left, taken', left', places.1, read]

theorem numeral?_isSome (parts : NumberParts whole fraction exponent) :
    ∃ d, numeral? (whole ++ (fraction ++ exponent)) = some d := by
  obtain ⟨e, raised⟩ := parts.mark.raises
  obtain rfl | ⟨ps, rfl, places⟩ := parts.point
  · have present : whole ≠ [] := parts.present.resolve_right (by simp)
    exact ⟨_, numeral?_whole ⟨present, parts.digits⟩ raised⟩
  · exact ⟨_, numeral?_pointed parts.digits places raised⟩

/-- The first character of a number is that of no word. -/
theorem toLower_start {c : Char} (h : c = '.' ∨ c.isDigit = true) :
    c.toLower ≠ 'i' ∧ c.toLower ≠ 'n' := by
  have same : c.toLower = c := by
    obtain rfl | digit := h
    · rfl
    · simp only [Char.isDigit, Bool.and_eq_true, decide_eq_true_eq] at digit
      have upper : ¬ (c.val ≥ 'A'.val ∧ c.val ≤ 'Z'.val) := by
        rintro ⟨low, -⟩
        exact absurd (UInt32.le_trans low digit.2) (by decide)
      exact dif_neg upper
  rw [same]
  exact ⟨fun same => by simp [same] at h, fun same => by simp [same] at h⟩

theorem ofList_cons_ne {c : Char} {word : String} (cs : List Char)
    (h : word.toList.head? ≠ some c) : .ofList (c :: cs) ≠ word := by
  intro same
  simp [← same] at h

/-- A number is read as a decimal, and not as a name. -/
theorem unsigned?_numeral (parts : NumberParts whole fraction exponent) (negative : Bool)
    (read : numeral? (whole ++ (fraction ++ exponent)) = some d) :
    unsigned? negative (whole ++ (fraction ++ exponent)) = some (ofMagnitude negative d.bits) := by
  obtain ⟨c, cs, start, hc⟩ := parts.head
  obtain ⟨not_i, not_n⟩ := toLower_start hc
  generalize whole ++ (fraction ++ exponent) = text at *
  have unlike (word : String) (hw : word.toList.head? ≠ some c.toLower) :
      String.ofList (text.map Char.toLower) ≠ word := by
    rw [start, List.map_cons]
    exact ofList_cons_ne _ hw
  have no_inf := unlike "inf" (by simpa using not_i.symm)
  have no_infinity := unlike "infinity" (by simpa using not_i.symm)
  have no_nan := unlike "nan" (by simpa using not_n.symm)
  simp [unsigned?, no_inf, no_infinity, no_nan, read]

/-- A number has no sign of its own. -/
theorem read?_numeral (parts : NumberParts whole fraction exponent)
    (read : numeral? (whole ++ (fraction ++ exponent)) = some d) :
    read? (.ofList (whole ++ (fraction ++ exponent))) = some (ofMagnitude false d.bits) := by
  have unsigned := unsigned?_numeral parts false read
  obtain ⟨c, cs, start, hc⟩ := parts.head
  rw [start] at unsigned ⊢
  have no_minus : c ≠ '-' := fun same => by simp [same] at hc
  have no_plus : c ≠ '+' := fun same => by simp [same] at hc
  rw [read?, String.toList_ofList]
  simpa [no_minus, no_plus] using unsigned

end Double

namespace Reading

/-- What is read as a number has the parts of one. -/
theorem parts_of_number (hc : c = '.' ∨ c.isDigit) (h : number (c :: rest) = .token t length) :
    ∃ whole fraction exponent, NumberParts whole fraction exponent ∧
      t = .number (.ofList (whole ++ (fraction ++ exponent))) := by
  obtain ⟨whole, fraction, exponent, hw, hf, he, ht, -⟩ := number_parts h
  have digits : ∀ d ∈ whole, d.isDigit = true := by
    intro d hd
    rw [hw] at hd
    exact List.all_eq_true.mp List.all_takeWhile d hd
  rw [List.append_assoc] at ht
  exact ⟨whole, fraction, exponent,
    ⟨digits, fraction?_shape hf, exponent?_shape he, significand_ne_nil hc hw hf⟩, ht⟩

/-- Every number has a value. -/
theorem number_value (hc : c = '.' ∨ c.isDigit)
    (h : number (c :: rest) = .token (.number word) length) :
    ∃ v, Value.ofNumber word = .ok v := by
  obtain ⟨whole, fraction, exponent, parts, hword⟩ := parts_of_number hc h
  obtain ⟨d, read⟩ := Double.numeral?_isSome parts
  cases hword
  exact ⟨_, by rw [Value.ofNumber, Double.read?_numeral parts read]⟩

end Reading

namespace Lexer

/-- All numbers that a lexer reads have values. -/
theorem Reads.number_value (h : Reads lexer ts last) (hw : Token.number word ∈ ts) :
    ∃ v, Value.ofNumber word = .ok v := by
  induction h with
  | none => cases hw
  | more first _ _ ih =>
    rcases List.mem_cons.mp hw with rfl | hw
    · obtain ⟨length, hr, -⟩ := next_ok first
      rcases Reading.ofText_token hr with
        ⟨-, ht, -⟩ | ⟨hs, -, -⟩ | ⟨c, rest, htext, hc, hn⟩ | ⟨c, rest, -, -, hn⟩
      · cases ht
      · exact hs.elim
      · rw [htext] at hn
        exact Reading.number_value hc hn
      · cases hn
    · exact ih hw

end Lexer
end Formula
