import Formula.Proofs.Verdict
import Mathlib

namespace Formula
namespace Parser

variable {lexer : Lexer}

/-- What a parser accepts is a sentence. -/
theorem sentence_of_parse (hr : Lexer.Reads lexer ts last)
    (hl : Lexer.next last = .ok .finish after) (hstart : start? room lexer = .ok p)
    (hparse : parse p = .ok t q) : Sentence ts t := by
  rcases verdict_of_start hstart with ⟨u, q', hu, hv⟩ | ⟨e, q', he, -⟩
  · rw [hparse] at hu
    cases hu
    cases hv with
    | accepted reads next sentence _ =>
      obtain ⟨rfl, -⟩ := reads.unique (Lexer.ended_of_finish next) hr (Lexer.ended_of_finish hl)
      exact sentence
  · rw [hparse] at he
    cases he

/-- A sentence that is not nested too deep is accepted. -/
theorem parse_of_sentence (hr : Lexer.Reads lexer ts last)
    (hl : Lexer.next last = .ok .finish after) (hs : Sentence ts t) (hroom : t.nesting < room) :
    ∃ p q, start? room lexer = .ok p ∧ parse p = .ok t q := by
  have accepted : ∀ {result}, Verdict lexer room result → result = .ok t := by
    intro result hv
    rcases hv.of_sentence hr hl hs with ⟨h, -⟩ | ⟨-, h⟩
    · exact h
    · omega
  cases hstart : start? room lexer with
  | error e => cases accepted (verdict_of_start_error hstart)
  | ok p =>
    rcases verdict_of_start hstart with ⟨u, q, hu, hv⟩ | ⟨e, q, -, hv⟩
    · cases accepted hv
      exact ⟨p, q, rfl, hu⟩
    · cases accepted hv

/-- A parser with more room than its text has tokens accepts the sentences of the grammar and
nothing else, and a sentence has one tree only. -/
theorem parse_ok_iff_sentence (text : String) (ts : List Token) (after : Lexer) (room : Nat)
    (tokens : Lexer.tokens (.ofText text) = .ok (ts ++ [.finish]) after)
    (enough : ts.length < room) :
    (∀ t, (∃ p q, start? room (.ofText text) = .ok p ∧ parse p = .ok t q) ↔ Sentence ts t) ∧
      (∀ t, Sentence ts t → ∀ u, Sentence ts u → u = t) ∧
      ∀ us t u, Sentence us t → Sentence us u → t = u := by
  obtain ⟨last, hr, hl⟩ := Lexer.reads_of_tokens tokens
  refine ⟨fun t => ⟨?_, ?_⟩, ?_, fun us t u => Sentence.unique⟩
  · rintro ⟨p, q, hstart, hparse⟩
    exact sentence_of_parse hr hl hstart hparse
  · intro hs
    have hn : t.nesting ≤ ts.length := by simpa [Phrase.held] using Derives.nesting_le hs
    exact parse_of_sentence hr hl hs (Nat.lt_of_le_of_lt hn enough)
  · intro t ht u hu
    exact Sentence.unique hu ht

theorem sentence_of_mixed_operators :
    Sentence [.minus, .number "1", .caret, .number "2", .plus, .identifier "f", .leftParen,
      .identifier "x", .comma, .leftBracket, .identifier "y", .rightBracket, .rightParen, .star,
      .number "3", .question, .identifier "a", .colon, .identifier "b"]
      (.operator .conditional [
        .operator (.operator .add) [
          .operator (.operator .power) [
            .operator (.sign .minus) [.leaf .number "1"], .leaf .number "2"],
          .operator (.operator .multiply) [
            ⟨.call, "f", [.operator .arguments [
              .leaf .identifier "x", .operator .group [.leaf .identifier "y"]]]⟩,
            .leaf .number "3"]],
        .leaf .identifier "a", .leaf .identifier "b"]) := by
  refine ((parse_ok_iff_sentence "-1^2+f(x,[y])*3?a:b" _
    ⟨"-1^2+f(x,[y])*3?a:b", [], 19, 19⟩ 20 ?_ ?_).1 _).mp
    ⟨⟨⟨"-1^2+f(x,[y])*3?a:b", "1^2+f(x,[y])*3?a:b".toList, 1, 0⟩, .minus, 20⟩,
      ⟨⟨"-1^2+f(x,[y])*3?a:b", [], 19, 19⟩, .finish, 20⟩, ?_, ?_⟩
  · cbv
  · decide
  · cbv
  · cbv

end Parser
end Formula
