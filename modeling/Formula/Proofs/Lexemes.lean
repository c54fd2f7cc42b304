import Formula.Lexer

namespace Formula

/-- Tokens that are neither literals nor names nor the end of the text. -/
def Token.IsSymbol : Token → Prop
  | .number _ | .identifier _ | .finish => False
  | _ => True

namespace Reading

theorem fraction?_start (h : fraction? text = some fraction) : fraction <+: text := by
  unfold fraction? at h
  split at h
  · split at h
    · cases h
      exact List.cons_prefix_cons.mpr ⟨rfl, List.takeWhile_prefix _⟩
    · cases h
  · cases h
    exact List.nil_prefix

theorem exponent?_start (h : exponent? text = some exponent) : exponent <+: text := by
  unfold exponent? at h
  split at h
  · rename_i mark rest
    split at h
    · split at h
      rename_i sign digits hsplit
      split at h
      · cases h
        have hrest : rest = sign ++ digits := by
          split at hsplit <;> cases hsplit <;> rfl
        rw [hrest, List.cons_append, List.cons_prefix_cons]
        exact ⟨rfl, List.prefix_append_right_inj _ |>.mpr (List.takeWhile_prefix _)⟩
      · cases h
    · cases h
      exact List.nil_prefix
  · cases h
    exact List.nil_prefix

/-- The parts of a number are read one behind the other. -/
theorem number_parts (h : number text = .token t length) :
    ∃ whole fraction exponent, whole = text.takeWhile Char.isDigit ∧
      fraction? (text.drop whole.length) = some fraction ∧
      exponent? (text.drop (whole ++ fraction).length) = some exponent ∧
      t = .number (.ofList (whole ++ fraction ++ exponent)) ∧
      length = (whole ++ fraction ++ exponent).length := by
  unfold number at h
  dsimp only at h
  split at h
  · cases h
  · rename_i fraction hf
    split at h
    · cases h
    · rename_i exponent he
      cases h
      exact ⟨_, fraction, exponent, rfl, hf, he, rfl, rfl⟩

theorem append_prefix_of_drop {xs ys text : List Char} (hx : xs <+: text)
    (hy : ys <+: text.drop xs.length) : xs ++ ys <+: text := by
  obtain ⟨rest, rfl⟩ := hx
  rw [List.drop_left] at hy
  exact (List.prefix_append_right_inj xs).mpr hy

theorem number_start (h : number text = .token t length) :
    ∃ numeral, t = .number (.ofList numeral) ∧ length = numeral.length ∧ numeral <+: text := by
  obtain ⟨whole, fraction, exponent, hw, hf, he, ht, hl⟩ := number_parts h
  have hwhole : whole <+: text := hw ▸ List.takeWhile_prefix _
  have hsignificand := append_prefix_of_drop hwhole (fraction?_start hf)
  exact ⟨_, ht, hl, append_prefix_of_drop hsignificand (exponent?_start he)⟩

/-- A number has digits in front of its point or behind it. -/
theorem significand_ne_nil (hc : c = '.' ∨ c.isDigit)
    (hw : whole = (c :: rest).takeWhile Char.isDigit)
    (hf : fraction? ((c :: rest).drop whole.length) = some fraction) :
    whole ≠ [] ∨ fraction ≠ [] := by
  by_cases hd : c.isDigit
  · left
    simp [hw, hd]
  · right
    obtain rfl := hc.resolve_right hd
    simp only [List.takeWhile_cons, hd, Bool.false_eq_true, ↓reduceIte] at hw
    subst hw
    simp only [List.length_nil, List.drop_zero, fraction?] at hf
    split at hf
    · cases hf
      exact List.cons_ne_nil _ _
    · cases hf

theorem number_pos (hc : c = '.' ∨ c.isDigit) (h : number (c :: rest) = .token t length) :
    0 < length := by
  obtain ⟨whole, fraction, exponent, hw, hf, _, _, rfl⟩ := number_parts h
  simp only [List.length_append]
  rcases significand_ne_nil hc hw hf with hne | hne
  · have := List.length_pos_iff.mpr hne
    omega
  · have := List.length_pos_iff.mpr hne
    omega

theorem continuesName_of_starts (h : startsName c = true) : continuesName c = true := by
  unfold startsName at h
  unfold continuesName
  revert h
  cases Text.isAlphabetic c <;> cases Text.isNumeric c <;> simp

theorem name_pos (hc : startsName c = true) (h : name (c :: rest) = .token t length) :
    0 < length := by
  cases h
  simp [continuesName_of_starts hc]

/-- A token is the end of the text, a symbol, a number or a name. -/
theorem ofText_token (h : ofText text = .token t length) :
    (text = [] ∧ t = .finish ∧ length = 0) ∨
    (t.IsSymbol ∧ 0 < length ∧ length ≤ text.length) ∨
    (∃ c rest, text = c :: rest ∧ (c = '.' ∨ c.isDigit) ∧ number text = .token t length) ∨
    (∃ c rest, text = c :: rest ∧ startsName c = true ∧ name text = .token t length) := by
  unfold ofText at h
  split at h
  case h_1 =>
    cases h
    exact .inl ⟨rfl, rfl, rfl⟩
  case h_32 =>
    right; right
    split at h
    · rename_i hc
      exact .inl ⟨_, _, rfl, by simpa using hc, h⟩
    · split at h
      · exact .inr ⟨_, _, rfl, ‹_›, h⟩
      · cases h
  all_goals
    cases h
    try exact .inr (.inl ⟨trivial, by simp, by simp⟩)

theorem ofText_length_le (h : ofText text = .token t length) : length ≤ text.length := by
  rcases ofText_token h with
    ⟨rfl, rfl, rfl⟩ | ⟨-, -, hl⟩ | ⟨c, rest, rfl, -, hn⟩ | ⟨c, rest, rfl, -, hn⟩
  · exact Nat.le_refl 0
  · exact hl
  · obtain ⟨numeral, -, rfl, hp⟩ := number_start hn
    exact hp.length_le
  · cases hn
    exact (List.takeWhile_prefix _).length_le

/-- Every token but the end of the text takes a character. -/
theorem ofText_length_pos (h : ofText text = .token t length) (ht : t ≠ .finish) :
    0 < length ∧ text ≠ [] := by
  rcases ofText_token h with
    ⟨rfl, rfl, rfl⟩ | ⟨-, hl, hle⟩ | ⟨c, rest, rfl, hc, hn⟩ | ⟨c, rest, rfl, hc, hn⟩
  · exact absurd rfl ht
  · refine ⟨hl, ?_⟩
    rintro rfl
    exact Nat.not_lt.mpr hle hl
  · exact ⟨number_pos hc hn, by simp⟩
  · exact ⟨name_pos hc hn, by simp⟩

theorem ofText_finish (h : ofText text = .token .finish length) : text = [] := by
  rcases ofText_token h with
    ⟨rfl, -, -⟩ | ⟨hs, -, -⟩ | ⟨c, rest, rfl, -, hn⟩ | ⟨c, rest, rfl, -, hn⟩
  · rfl
  · exact hs.elim
  · obtain ⟨numeral, ht, -, -⟩ := number_start hn
    cases ht
  · cases hn

end Reading
end Formula
