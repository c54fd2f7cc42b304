import Formula.Proofs.Verdict
import Mathlib

namespace Formula

/-- A lexical fault is the one that reading all tokens stops at, and the tokens in front of it start
a sentence. -/
def LexicalAt (text : String) (fault : LexicalFault) (position : Nat) : Prop :=
  ∃ ts last after, Lexer.Reads (.ofText text) ts last ∧
    Lexer.next last = .error ⟨fault, position⟩ after ∧
    Lexer.tokens (.ofText text) = .error ⟨fault, position⟩ after ∧
    ∃ us t, Sentence (ts ++ us) t

/-- A token stands at a position, the tokens in front of it start a sentence, and together with it
they start none. The end of a text stands behind its last character, and the tokens in front of it
are no sentence. -/
def MisplacedAt (text : String) (found : Token) (position : Nat) : Prop :=
  ∃ ts last after, Lexer.Reads (.ofText text) ts last ∧ Lexer.next last = .ok found after ∧
    position = after.tokenStart ∧ (found = .finish → position = text.length) ∧
    (∃ us t, Sentence (ts ++ us) t) ∧
    (found ≠ .finish → ∀ us t, ¬ Sentence (ts ++ found :: us) t) ∧
    (found = .finish → ∀ t, ¬ Sentence ts t)

namespace Parser

/-- No sentence goes on with a token that none of them can have at its place. -/
theorem not_sentence_of_blocked
    (blocked : ∀ us t, Sentence us t → ¬ ts ++ [found] <+: us ++ [.finish]) (us : List Token)
    (t : Node) : ¬ Sentence (ts ++ found :: us) t := by
  intro hs
  refine blocked _ t hs ⟨us ++ [.finish], ?_⟩
  simp

theorem position_of_finish (hr : Lexer.Reads (.ofText text) ts last)
    (hn : Lexer.next last = .ok .finish after) : after.tokenStart = text.length := by
  rw [(hr.placed (Lexer.placed_ofText text)).finish hn, hr.source]
  rfl

end Parser

namespace Builder

/-- A fault that is not about nesting is found as early as possible. -/
theorem parse_fault_earliest (builder : Builder V F) (text : String) (e : SyntaxError)
    (error : builder.parse text = .error e) (shallow : ∀ limit, e.fault ≠ .tooDeep limit) :
    e.input = text ∧
      ((∃ fault, e.fault = .lexical fault ∧ LexicalAt text fault e.position) ∨
        ∃ found, (e.fault = .unexpected found ∨ ∃ wanted, e.fault = .expected wanted found) ∧
          MisplacedAt text found e.position) := by
  rcases builder.parse_verdict text with ⟨t, ht, -⟩ | ⟨e', he, hv⟩
  · rw [error] at ht
    cases ht
  rw [error] at he
  cases he
  cases hv with
  | @lexical ts last le after reads next viable =>
    have hsource : after.source = text := (Lexer.next_error_source next).trans reads.source
    exact ⟨hsource, .inl ⟨le.fault, rfl, ts, last, after, reads, next,
      Lexer.tokens_error_of_reads reads next, viable⟩⟩
  | @misplaced ts last found after fault reads next fault_found viable blocked =>
    have hsource : after.source = text := (Lexer.next_source next).trans reads.source
    refine ⟨hsource, .inr ⟨found, fault_found, ts, last, after, reads, next, rfl, ?_, viable, ?_,
      ?_⟩⟩
    · rintro rfl
      exact Parser.position_of_finish reads next
    · intro _
      exact Parser.not_sentence_of_blocked blocked
    · rintro rfl t hs
      exact blocked ts t hs (List.prefix_rfl)
  | tooDeep => exact absurd rfl (shallow _)

/-- An operand is missing at the end, which is where the fault is found. -/
theorem misplaced_finish : MisplacedAt "f(1)+" .finish 5 := by
  have h := parse_fault_earliest (V := Empty) (F := Empty) .empty "f(1)+"
    ⟨"f(1)+", .unexpected .finish, 5⟩ (by cbv) (by simp)
  obtain ⟨-, ⟨fault, hf, -⟩ | ⟨found, hf, hat⟩⟩ := h
  · cases hf
  · rcases hf with hf | ⟨wanted, hf⟩
    · cases hf
      exact hat
    · cases hf

end Builder
end Formula
