import Formula.Proofs.LexemeReading

namespace Formula

/-- The longest lexeme that a text starts with. -/
structure Longest (text word : List Char) (t : Token) : Prop where
  starts : word <+: text
  lexeme : Lexeme word t
  longest : ∀ word' t', Lexeme word' t' → word' <+: text → word'.length ≤ word.length

/-- A word at the start of a text is cut off by what stands behind it. -/
def Severed (text word : List Char) : Prop :=
  ∃ c ∈ (text.drop word.length).head?, CutOff word c

theorem Longest.unique (h : Longest text word t) (h' : Longest text word' t') : word = word' := by
  have hlength : word.length = word'.length :=
    Nat.le_antisymm (h'.longest _ _ h.lexeme h.starts) (h.longest _ _ h'.lexeme h'.starts)
  exact (List.prefix_of_prefix_length_le h.starts h'.starts hlength.le).eq_of_length hlength

namespace Reading

variable {text : List Char}

theorem longest_of_token (h : ofText text = .token t length) (hne : text ≠ []) :
    ∃ word, word.length = length ∧ Longest text word t ∧ ¬ Severed text word := by
  have ht : t ≠ .finish := by
    rintro rfl
    exact hne (ofText_finish h)
  have hlength : (text.take length).length = length :=
    List.length_take_of_le (ofText_length_le h)
  have hsplit : text.take length ++ text.drop length = text := List.take_append_drop ..
  have hread : ofText (text.take length ++ text.drop length) =
      .token t (text.take length).length := by rw [hsplit, hlength, h]
  obtain ⟨lexeme, -, cut⟩ := (ofText_token_iff ht).mp hread
  refine ⟨text.take length, hlength, ⟨List.take_prefix .., lexeme, ?_⟩, ?_⟩
  · intro word' t' h' hp
    have hle := ofText_longest h' hp
    rw [h] at hle
    exact hle.trans_eq hlength.symm
  · rintro ⟨c, hc, hcut⟩
    rw [hlength] at hc
    exact cut c hc hcut

theorem longest_of_fault (h : ofText text = .fault why length) (hne : text ≠ []) :
    (length = 0 ∧ ∀ word t, Lexeme word t → ¬ word <+: text) ∨
      ∃ word t, word.length = length ∧ Longest text word t ∧ Severed text word := by
  rcases ofText_fault h hne with hnone | ⟨word, c, rest, htext, hlength, ⟨t, lexeme⟩, hcut⟩
  · exact .inl hnone
  · refine .inr ⟨word, t, hlength, ⟨⟨_, htext.symm⟩, lexeme, ?_⟩, c, ?_, hcut⟩
    · intro word' t' h' hp
      have hle := ofText_longest h' hp
      rw [h] at hle
      exact hlength ▸ hle
    · rw [htext, List.drop_left]
      rfl

end Reading

namespace Lexer

/-- What a lexer has not read yet is the text from where it stands. -/
def Aligned (lexer : Lexer) : Prop :=
  lexer.rest = lexer.source.toList.drop lexer.position

theorem aligned_ofText (text : String) : (ofText text).Aligned := rfl

theorem Aligned.skip (h : Aligned lexer) (length : Nat) : (lexer.skip length).Aligned := by
  simp only [Aligned, Lexer.skip] at h ⊢
  rw [h, List.drop_drop]

variable {lexer : Lexer} {blanks text : List Char}

theorem Aligned.skipBlanks (h : Aligned lexer) : lexer.skipBlanks.Aligned := by
  simp only [Aligned, Lexer.skipBlanks] at h ⊢
  rw [h, List.drop_drop]

theorem Aligned.next (h : Aligned lexer) (hn : next lexer = .ok t after) : after.Aligned := by
  obtain ⟨length, -, rfl⟩ := next_ok hn
  exact h.skipBlanks.skip length

theorem skipBlanks_run (hrest : lexer.rest = blanks ++ text)
    (skipped : ∀ c ∈ blanks, Text.isBlank c = true)
    (ends : ∀ c ∈ text.head?, Text.isBlank c = false) :
    lexer.skipBlanks = ⟨lexer.source, text, lexer.position + blanks.length,
      lexer.position + blanks.length⟩ := by
  simp only [skipBlanks, hrest, Reading.takeWhile_run skipped ends, List.drop_left]

/-- Reading finds the longest lexeme, or a place where there is none or where it is cut off. -/
theorem next_longest (aligned : Aligned lexer) (hrest : lexer.rest = blanks ++ c :: text)
    (skipped : ∀ d ∈ blanks, Text.isBlank d = true) (starts : Text.isBlank c = false)
    (hstart : start = lexer.position + blanks.length) :
    ((∃ t after, next lexer = .ok t after) ↔
      ∃ word t, Longest (c :: text) word t ∧ ¬ Severed (c :: text) word) ∧
    (∀ t after, next lexer = .ok t after → after.Aligned ∧
      ∃ word, Longest (c :: text) word t ∧
        after = ⟨lexer.source, (c :: text).drop word.length, start + word.length, start⟩) ∧
    (∀ e after, next lexer = .error e after → after.Aligned ∧
      ((e.position = start ∧ ∀ word t, Lexeme word t → ¬ word <+: c :: text) ∨
        ∃ word t, e.position = start + word.length ∧
          Longest (c :: text) word t ∧ Severed (c :: text) word)) := by
  have hskip : lexer.skipBlanks = ⟨lexer.source, c :: text, start, start⟩ :=
    hstart ▸ skipBlanks_run hrest skipped (by simpa using starts)
  have hal : Aligned ⟨lexer.source, c :: text, start, start⟩ := hskip ▸ aligned.skipBlanks
  cases hread : Reading.ofText (c :: text) with
  | token t length =>
    obtain ⟨word, rfl, hlongest, hcut⟩ :=
      Reading.longest_of_token hread (List.cons_ne_nil c text)
    have hnext : next lexer = .ok t
        ⟨lexer.source, (c :: text).drop word.length, start + word.length, start⟩ := by
      simp only [next, hskip, hread, skip]
    rw [hnext]
    refine ⟨⟨fun _ => ⟨word, t, hlongest, hcut⟩, fun _ => ⟨t, _, rfl⟩⟩, ?_, ?_⟩
    · intro t' after h
      cases h
      exact ⟨hal.skip word.length, word, hlongest, rfl⟩
    · intro e after h
      cases h
  | fault why length =>
    have hnext : next lexer = .error ⟨why, start + length⟩
        ⟨lexer.source, (c :: text).drop length, start + length, start⟩ := by
      simp only [next, hskip, hread, skip]
    have hfails : ¬ ∃ t after, next lexer = .ok t after := by
      rintro ⟨t, after, h⟩
      rw [hnext] at h
      cases h
    rcases Reading.longest_of_fault hread (List.cons_ne_nil c text) with
      ⟨rfl, hnone⟩ | ⟨word, t, rfl, hlongest, hcut⟩
    · refine ⟨⟨fun h => absurd h hfails, ?_⟩, fun t after h => absurd ⟨t, after, h⟩ hfails, ?_⟩
      · rintro ⟨word, t, hlongest, -⟩
        exact absurd hlongest.starts (hnone word t hlongest.lexeme)
      · intro e after h
        cases hnext.symm.trans h
        exact ⟨hal.skip 0, .inl ⟨rfl, hnone⟩⟩
    · refine ⟨⟨fun h => absurd h hfails, ?_⟩, fun t after h => absurd ⟨t, after, h⟩ hfails, ?_⟩
      · rintro ⟨word', t', hlongest', hcut'⟩
        obtain rfl := hlongest.unique hlongest'
        exact absurd hcut hcut'
      · intro e after h
        cases hnext.symm.trans h
        exact ⟨hal.skip word.length, .inr ⟨word, t, rfl, hlongest, hcut⟩⟩

/-- A number whose exponent has no digits is cut off in front of the exponent. -/
theorem next_longest_noExponent :
    ∃ after, next (ofText " 12.5e+x") = .error ⟨.noExponent, 5⟩ after ∧ after.Aligned ∧
      ∃ word t, 5 = 1 + word.length ∧
        Longest "12.5e+x".toList word t ∧ Severed "12.5e+x".toList word := by
  have hnext : next (ofText " 12.5e+x") =
      .error ⟨.noExponent, 5⟩ ⟨" 12.5e+x", "e+x".toList, 5, 1⟩ := rfl
  obtain ⟨aligned, hplace⟩ :=
    (next_longest (aligned_ofText " 12.5e+x") (show _ = [' '] ++ '1' :: "2.5e+x".toList from rfl)
      (List.forall_mem_singleton.mpr (by decide)) (by decide) rfl).2.2 _ _ hnext
  refine ⟨_, hnext, aligned, hplace.resolve_left ?_⟩
  rintro ⟨h, -⟩
  cases h

end Lexer
end Formula
