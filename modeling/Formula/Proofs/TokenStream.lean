import Formula.Proofs.Lexemes

namespace Formula
namespace Lexer

theorem next_ok (h : next lexer = .ok t after) : ∃ length,
    Reading.ofText lexer.skipBlanks.rest = .token t length ∧
      after = lexer.skipBlanks.skip length := by
  unfold next at h
  dsimp only at h
  split at h
  · cases h
    exact ⟨_, ‹_›, rfl⟩
  · cases h

theorem next_error (h : next lexer = .error e after) : ∃ length,
    Reading.ofText lexer.skipBlanks.rest = .fault e.fault length ∧
      after = lexer.skipBlanks.skip length ∧ e.position = after.position := by
  unfold next at h
  dsimp only at h
  split at h
  · cases h
  · cases h
    exact ⟨_, ‹_›, rfl, rfl⟩

theorem length_skipBlanks_le (lexer : Lexer) :
    lexer.skipBlanks.rest.length ≤ lexer.rest.length := by
  simp [skipBlanks]

theorem next_source (h : next lexer = .ok t after) : after.source = lexer.source := by
  obtain ⟨length, -, rfl⟩ := next_ok h
  rfl

theorem next_error_source (h : next lexer = .error e after) : after.source = lexer.source := by
  obtain ⟨length, -, rfl, -⟩ := next_error h
  rfl

theorem next_length_le (h : next lexer = .ok t after) : after.rest.length ≤ lexer.rest.length := by
  obtain ⟨length, -, rfl⟩ := next_ok h
  have := length_skipBlanks_le lexer
  simp only [skip, List.length_drop]
  omega

theorem next_length_lt (h : next lexer = .ok t after) (ht : t ≠ .finish) :
    after.rest.length < lexer.rest.length := by
  obtain ⟨length, hr, rfl⟩ := next_ok h
  obtain ⟨hpos, hne⟩ := Reading.ofText_length_pos hr ht
  have := length_skipBlanks_le lexer
  have := List.length_pos_iff.mpr hne
  simp only [skip, List.length_drop]
  omega

theorem next_of_nil (h : lexer.rest = []) : ∃ after, next lexer = .ok .finish after := by
  have hr : lexer.skipBlanks.rest = [] := by simp [skipBlanks, h]
  exact ⟨lexer.skipBlanks.skip 0, by simp [next, hr, Reading.ofText]⟩

/-- All characters in front of the place where a lexer stands have been read. -/
def Placed (lexer : Lexer) : Prop :=
  lexer.position + lexer.rest.length = lexer.source.length

theorem placed_ofText (text : String) : (ofText text).Placed := by
  simp [Placed, ofText, String.length_toList]

theorem Placed.skipBlanks (h : Placed lexer) : Placed lexer.skipBlanks := by
  have hl : (lexer.rest.takeWhile Text.isBlank).length ≤ lexer.rest.length :=
    (List.takeWhile_prefix _).length_le
  simp only [Placed, Lexer.skipBlanks, List.length_drop] at h ⊢
  omega

theorem Placed.next (h : Placed lexer) (hn : next lexer = .ok t after) : Placed after := by
  obtain ⟨length, hr, rfl⟩ := next_ok hn
  have hl := Reading.ofText_length_le hr
  have hs := h.skipBlanks
  simp only [Placed, skip, List.length_drop] at hs ⊢
  omega

/-- The end of a text starts behind its last character. -/
theorem Placed.finish (h : Placed lexer) (hn : Lexer.next lexer = .ok .finish after) :
    after.tokenStart = lexer.source.length := by
  obtain ⟨length, hr, rfl⟩ := next_ok hn
  have hs := h.skipBlanks
  rw [Placed, Reading.ofText_finish hr] at hs
  exact hs

/-- Reading some tokens, none of which is the end of the text, leads from one place to another. -/
inductive Reads : Lexer → List Token → Lexer → Prop where
  | none : Reads lexer [] lexer
  | more (first : next lexer = .ok t after) (word : t ≠ .finish) (others : Reads after ts last) :
      Reads lexer (t :: ts) last

theorem Reads.snoc (h : Reads lexer ts mid) (hn : next mid = .ok t last) (ht : t ≠ .finish) :
    Reads lexer (ts ++ [t]) last := by
  induction h with
  | none => exact .more hn ht .none
  | more first word _ ih => exact .more first word (ih hn)

theorem Reads.source (h : Reads lexer ts last) : last.source = lexer.source := by
  induction h with
  | none => rfl
  | more first _ _ ih => rw [ih, next_source first]

theorem Reads.placed (h : Reads lexer ts last) (hp : Placed lexer) : Placed last := by
  induction h with
  | none => exact hp
  | more first _ _ ih => exact ih (hp.next first)

/-- No token but the end of the text can be read. -/
def Ended (lexer : Lexer) : Prop :=
  ∀ t after, next lexer = .ok t after → t = .finish

theorem ended_of_finish (h : next lexer = .ok .finish after) : Ended lexer := by
  intro t after' h'
  rw [h] at h'
  cases h'
  rfl

theorem ended_of_error (h : next lexer = .error e after) : Ended lexer := by
  intro t after' h'
  rw [h] at h'
  cases h'

/-- Whatever is read is the start of what is read up to the end. -/
theorem Reads.start (h : Reads lexer ts last) (hl : Ended last) (h' : Reads lexer us mid) :
    ∃ vs, ts = us ++ vs ∧ Reads mid vs last := by
  induction h' generalizing ts with
  | none => exact ⟨ts, rfl, h⟩
  | more first word _ ih =>
    cases h with
    | none => exact absurd (hl _ _ first) word
    | more first' _ others =>
      cases first.symm.trans first'
      obtain ⟨vs, rfl, hv⟩ := ih others
      exact ⟨vs, rfl, hv⟩

theorem Reads.unique (h : Reads lexer ts last) (hl : Ended last) (h' : Reads lexer us last')
    (hl' : Ended last') : ts = us ∧ last = last' := by
  obtain ⟨vs, rfl, hv⟩ := h.start hl h'
  cases hv with
  | none => exact ⟨List.append_nil us, rfl⟩
  | more first word _ => exact absurd (hl' _ _ first) word

/-- Any token that is read is one of all tokens up to the end. -/
theorem Reads.ahead (h : Reads lexer us mid) (hm : next mid = .ok found after)
    (h' : Reads lexer ts last) (hl : next last = .ok .finish after') :
    us ++ [found] <+: ts ++ [.finish] := by
  obtain ⟨vs, rfl, hv⟩ := h'.start (ended_of_finish hl) h
  cases hv with
  | none =>
    rw [hl] at hm
    cases hm
    exact ⟨[], by simp⟩
  | @more _ _ _ ts _ first _ _ =>
    rw [hm] at first
    cases first
    exact ⟨ts ++ [.finish], by simp⟩

/-- A row of tokens ends with the text or with a fault. The characters that are `unread` are enough
for the induction, since each token but the last takes one of them. -/
theorem tokensFrom_reads (found : Array Token) (unread : List Char) (lexer : Lexer)
    (h : lexer.rest.length ≤ unread.length) : ∃ ts last, Reads lexer ts last ∧
      ((∃ after, next last = .ok .finish after ∧
          tokensFrom found unread lexer = .ok (found.toList ++ ts ++ [.finish]) after) ∨
        ∃ e after, next last = .error e after ∧
          tokensFrom found unread lexer = .error e after) := by
  induction unread generalizing found lexer with
  | nil =>
    obtain ⟨after, hn⟩ := next_of_nil (List.length_eq_zero_iff.mp (Nat.le_zero.mp h))
    refine ⟨[], lexer, .none, .inl ⟨after, hn, ?_⟩⟩
    simp [tokensFrom, bind, EStateM.bind, pure, EStateM.pure, hn]
  | cons c unread ih =>
    cases hn : next lexer with
    | error e after =>
      refine ⟨[], lexer, .none, .inr ⟨e, after, hn, ?_⟩⟩
      simp [tokensFrom, bind, EStateM.bind, hn]
    | ok t after =>
      by_cases ht : t = .finish
      · subst ht
        refine ⟨[], lexer, .none, .inl ⟨after, hn, ?_⟩⟩
        simp [tokensFrom, bind, EStateM.bind, pure, EStateM.pure, hn]
      · have hlt := next_length_lt hn ht
        rw [List.length_cons] at h
        obtain ⟨ts, last, hr, ho⟩ := ih (found.push t) after (by omega)
        have hstep : tokensFrom found (c :: unread) lexer =
            tokensFrom (found.push t) unread after := by
          simp [tokensFrom, bind, EStateM.bind, hn, ht]
        refine ⟨t :: ts, last, .more hn ht hr, ?_⟩
        rw [hstep]
        simpa using ho

theorem tokens_reads (lexer : Lexer) : ∃ ts last, Reads lexer ts last ∧
    ((∃ after, next last = .ok .finish after ∧ tokens lexer = .ok (ts ++ [.finish]) after) ∨
      ∃ e after, next last = .error e after ∧ tokens lexer = .error e after) := by
  obtain ⟨ts, last, hr, ho⟩ := tokensFrom_reads #[] lexer.rest lexer (Nat.le_refl _)
  have htokens : tokens lexer = tokensFrom #[] lexer.rest lexer := rfl
  exact ⟨ts, last, hr, by simpa [htokens] using ho⟩

theorem reads_of_tokens (h : tokens lexer = .ok (ts ++ [.finish]) after) :
    ∃ last, Reads lexer ts last ∧ next last = .ok .finish after := by
  obtain ⟨us, last, hr, ⟨after', hn, ht⟩ | ⟨e, after', -, ht⟩⟩ := tokens_reads lexer
  · simp only [h, EStateM.Result.ok.injEq, List.append_cancel_right_eq] at ht
    obtain ⟨rfl, rfl⟩ := ht
    exact ⟨last, hr, hn⟩
  · rw [h] at ht
    cases ht

theorem tokens_of_reads (hr : Reads lexer ts last) (hn : next last = .ok .finish after) :
    tokens lexer = .ok (ts ++ [.finish]) after := by
  obtain ⟨us, last', hr', ⟨after', hn', ht⟩ | ⟨e', after', hn', -⟩⟩ := tokens_reads lexer
  · obtain ⟨rfl, rfl⟩ := hr.unique (ended_of_finish hn) hr' (ended_of_finish hn')
    rw [hn] at hn'
    cases hn'
    exact ht
  · obtain ⟨-, rfl⟩ := hr.unique (ended_of_finish hn) hr' (ended_of_error hn')
    rw [hn] at hn'
    cases hn'

theorem tokens_error_of_reads (hr : Reads lexer ts last) (hn : next last = .error e after) :
    tokens lexer = .error e after := by
  obtain ⟨us, last', hr', ⟨after', hn', -⟩ | ⟨e', after', hn', ht⟩⟩ := tokens_reads lexer
  · obtain ⟨-, rfl⟩ := hr.unique (ended_of_error hn) hr' (ended_of_finish hn')
    rw [hn] at hn'
    cases hn'
  · obtain ⟨-, rfl⟩ := hr.unique (ended_of_error hn) hr' (ended_of_error hn')
    rw [hn] at hn'
    cases hn'
    exact ht

end Lexer
end Formula
