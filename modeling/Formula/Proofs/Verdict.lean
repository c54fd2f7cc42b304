import Formula.Proofs.PhraseReading
import Formula.Builder

namespace Formula
namespace Parser

/-- How reading a text as a whole expression ends, told by the tokens read up to there. A fault
stands behind tokens that start some sentence. -/
inductive Verdict (start : Lexer) (limit : Nat) : Except SyntaxError Node → Prop where
  | accepted (reads : Lexer.Reads start ts last) (next : Lexer.next last = .ok .finish after)
      (sentence : Sentence ts t) (room : t.nesting < limit) : Verdict start limit (.ok t)
  | lexical (reads : Lexer.Reads start ts last) (next : Lexer.next last = .error e after)
      (viable : Viable .conditional ts) : Verdict start limit (.error (lexicalError after e))
  | misplaced (reads : Lexer.Reads start ts last) (next : Lexer.next last = .ok found after)
      (fault_found : fault = .unexpected found ∨ ∃ wanted, fault = .expected wanted found)
      (viable : Viable .conditional ts)
      (blocked : ∀ us t, Sentence us t → ¬ ts ++ [found] <+: us ++ [.finish]) :
      Verdict start limit (.error ⟨after.source, fault, after.tokenStart⟩)
  | tooDeep (reads : Lexer.Reads start ts last) (next : Lexer.next last = .ok found after)
      (deep : ∀ us t, Sentence us t → ts ++ [found] <+: us ++ [.finish] → limit ≤ t.nesting) :
      Verdict start limit (.error ⟨after.source, .tooDeep limit, after.tokenStart⟩)

variable {limit : Nat} {lexer start : Lexer}

theorem start?_failed (h : start? limit lexer = .error e) :
    ∃ cause after, Lexer.next lexer = .error cause after ∧ e = lexicalError after cause := by
  unfold start? at h
  cases hn : Lexer.next lexer with
  | ok token after =>
    rw [hn] at h
    cases h
  | error cause after =>
    rw [hn] at h
    cases h
    exact ⟨cause, after, rfl, rfl⟩

theorem verdict_of_start_error (h : start? limit lexer = .error e) :
    Verdict lexer limit (.error e) := by
  obtain ⟨cause, after, hn, rfl⟩ := start?_failed h
  exact .lexical .none hn (viable_nil trivial)

theorem start?_ok (h : start? limit lexer = .ok p) :
    Lexer.next lexer = .ok p.current p.lexer ∧ p.limit = limit := by
  unfold start? at h
  cases hn : Lexer.next lexer with
  | ok token after =>
    rw [hn] at h
    cases h
    exact ⟨rfl, rfl⟩
  | error le after =>
    rw [hn] at h
    cases h

/-- Behind a whole expression only the end of the text can stand. -/
theorem not_starts_behind (h : Derives .conditional ts found t)
    (hs : Phrase.conditional.Stops found) (hf : found ≠ .finish) (us : List Token) (u : Node)
    (hu : Sentence us u) : ¬ ts ++ [found] <+: us ++ [.finish] := by
  rintro ⟨w, hw⟩
  rw [List.append_assoc, List.singleton_append] at hw
  obtain ⟨rfl, -⟩ := h.unique hu hs Phrase.stops_finish hw
  exact hf (List.cons.inj (List.append_cancel_left hw)).1

theorem parse_accepts (hd : expression p = .ok t q) (hf : q.current = .finish) :
    parse p = .ok t q := by
  rw [parse, bind_ok hd, peek_bind, hf]
  rfl

theorem parse_rejects (hd : expression p = .ok t q) (hf : q.current ≠ .finish) :
    parse p = .error (q.faultAt (.unexpected q.current)) q := by
  rw [parse, bind_ok hd, peek_bind]
  cases hc : q.current with
  | finish => exact absurd hc hf
  | _ => rfl

theorem verdict_of_fails (hn : Lexer.next lexer = .ok p.current p.lexer)
    (h : Fails .conditional p.limit p e) : Verdict lexer p.limit (.error e) := by
  cases h with
  | @lexical ts q _ _ passes next error viable =>
    subst error
    have hf := Viable.finish_not_mem viable
    simp only [List.mem_append, List.mem_singleton, not_or] at hf
    obtain ⟨last, hr, hl⟩ := passes.reads hn hf.1
    exact .lexical (hr.snoc hl (Ne.symm hf.2)) next viable
  | misplaced passes error found viable blocked =>
    subst error
    obtain ⟨last, hr, hl⟩ := passes.reads hn (Viable.finish_not_mem viable)
    exact .misplaced hr hl found viable (fun us t hs hp => blocked t (Sentence.starts hs hp))
  | tooDeep passes error viable deep =>
    subst error
    obtain ⟨last, hr, hl⟩ := passes.reads hn (Viable.finish_not_mem viable)
    rw [passes.limit]
    exact .tooDeep hr hl (fun us t hs hp => deep t (Sentence.starts hs hp))

/-- What a parser answers that has just been started. -/
theorem verdict_of_start (h : start? limit lexer = .ok p) :
    (∃ t q, parse p = .ok t q ∧ Verdict lexer limit (.ok t)) ∨
      ∃ e q, parse p = .error e q ∧ Verdict lexer limit (.error e) := by
  obtain ⟨hn, rfl⟩ := start?_ok h
  have ho : Outcome .conditional p.limit p (expression p) := nested_outcome p.limit .conditional p
  cases hd : expression p with
  | ok t q =>
    rw [hd] at ho
    obtain ⟨ts, hp, ht, hs, hroom⟩ := ho
    obtain ⟨last, hr, hl⟩ := hp.reads hn ht.finish_not_mem
    by_cases hf : q.current = .finish
    · refine .inl ⟨t, q, parse_accepts hd hf, ?_⟩
      rw [hf] at ht hl
      exact .accepted hr hl ht hroom
    · refine .inr ⟨_, q, parse_rejects hd hf, ?_⟩
      exact .misplaced hr hl (.inl rfl) ht.viable (not_starts_behind ht hs hf)
  | error e q =>
    rw [hd] at ho
    have hparse : parse p = .error e q := by
      rw [parse]
      exact bind_error hd
    exact .inr ⟨e, q, hparse, verdict_of_fails hn ho⟩

namespace Verdict

/-- Where the tokens of a text form a sentence, it is read unless it is nested too deep. -/
theorem of_sentence (h : Verdict start limit result) (hr : Lexer.Reads start ts last)
    (hn : Lexer.next last = .ok .finish after) (hs : Sentence ts t) :
    (result = .ok t ∧ t.nesting < limit) ∨
      ((∃ e, result = .error e ∧ e.fault = .tooDeep limit) ∧ limit ≤ t.nesting) := by
  have hended := Lexer.ended_of_finish hn
  cases h with
  | accepted reads next sentence room =>
    obtain ⟨rfl, -⟩ := reads.unique (Lexer.ended_of_finish next) hr hended
    obtain rfl := Sentence.unique sentence hs
    exact .inl ⟨rfl, room⟩
  | lexical reads next viable =>
    obtain ⟨-, rfl⟩ := reads.unique (Lexer.ended_of_error next) hr hended
    rw [hn] at next
    cases next
  | misplaced reads next found viable blocked =>
    exact absurd (reads.ahead next hr hn) (blocked ts t hs)
  | tooDeep reads next deep =>
    exact .inr ⟨⟨_, rfl, rfl⟩, deep ts t hs (reads.ahead next hr hn)⟩

end Verdict

end Parser

namespace Builder

theorem parse_verdict (builder : Builder V F) (text : String) :
    (∃ t, builder.parse text = .ok ⟨t, builder.context⟩ ∧
      Parser.Verdict (.ofText text) builder.limit (.ok t)) ∨
    ∃ e, builder.parse text = .error e ∧
      Parser.Verdict (.ofText text) builder.limit (.error e) := by
  unfold parse
  cases hs : Parser.start? builder.limit (.ofText text) with
  | error e => exact .inr ⟨e, rfl, Parser.verdict_of_start_error hs⟩
  | ok p =>
    rcases Parser.verdict_of_start hs with ⟨t, q, hp, hv⟩ | ⟨e, q, hp, hv⟩
    · exact .inl ⟨t, by simp [bind, Except.bind, hp, pure, Except.pure], hv⟩
    · exact .inr ⟨e, by simp [bind, Except.bind, hp, throw, throwThe, MonadExceptOf.throw], hv⟩

/-- A text that is read is made of the tokens of a sentence. -/
theorem sentence_of_parse {builder : Builder V F} (h : builder.parse text = .ok expression) :
    ∃ ts last after, Lexer.Reads (.ofText text) ts last ∧ Lexer.next last = .ok .finish after ∧
      Sentence ts expression.root ∧ expression.context = builder.context := by
  rcases builder.parse_verdict text with ⟨t, ht, hv⟩ | ⟨e, he, -⟩
  · rw [h] at ht
    cases ht
    cases hv with
    | accepted reads next sentence _ => exact ⟨_, _, _, reads, next, sentence, rfl⟩
  · rw [h] at he
    cases he

end Builder
end Formula
