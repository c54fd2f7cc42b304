import Formula.Proofs.Verdict
import Mathlib

namespace Formula
namespace Node

/-- Operands with operators between them, folded to the left. -/
def chain (first : Node) (others : List (Operator × Node)) : Node :=
  others.foldl (fun left other => .operator (.operator other.1) [left, other.2]) first

/-- A chain of operators that group to the left is nested as deep as the deepest operand, however
long it is. -/
theorem nesting_chain (first : Node) (others : List (Operator × Node))
    (left : ∀ other ∈ others, other.1.rank.groupsLeft = true) :
    (chain first others).nesting = nestings (first :: others.map Prod.snd) := by
  induction others generalizing first with
  | nil => simp [chain, nestings]
  | cons other others ih =>
    have hother := left other (List.mem_cons_self ..)
    have htail := ih (.operator (.operator other.1) [first, other.2])
      (fun x hx => left x (List.mem_cons_of_mem _ hx))
    simp only [nestings, nesting_operator, hother, ↓reduceIte] at htail
    simp only [chain, List.foldl_cons, List.map_cons, nestings] at htail ⊢
    omega

/-- A row of arguments is nested as deep as the deepest of them, however long it is. -/
theorem nesting_pairUp (last : Node) (earlier : List Node) :
    (Parser.pairUp last earlier).nesting = nestings (last :: earlier) := by
  induction earlier generalizing last with
  | nil => simp [Parser.pairUp, nestings]
  | cons argument earlier ih =>
    have htail := ih (.operator .arguments [argument, last])
    simp only [Parser.pairUp, List.foldl_cons, nestings, nesting_arguments] at htail ⊢
    omega

end Node

namespace Builder

/-- The tree of a sentence is read where it is nested less deep than the limit, and is too deep
elsewhere. -/
theorem parse_of_sentence (builder : Builder V F) (hr : Lexer.Reads (.ofText text) ts last)
    (hl : Lexer.next last = .ok .finish after) (hs : Sentence ts t) :
    (builder.parse text = .ok ⟨t, builder.context⟩ ∧ t.nesting < builder.limit) ∨
      ((∃ e, builder.parse text = .error e ∧ e.fault = .tooDeep builder.limit) ∧
        builder.limit ≤ t.nesting) := by
  rcases builder.parse_verdict text with ⟨u, hu, hv⟩ | ⟨e, he, hv⟩
  · rcases hv.of_sentence hr hl hs with ⟨h, hn⟩ | ⟨⟨e, h, -⟩, -⟩
    · cases h
      exact .inl ⟨hu, hn⟩
    · cases h
  · rcases hv.of_sentence hr hl hs with ⟨h, -⟩ | ⟨⟨e', h, hf⟩, hn⟩
    · cases h
    · cases h
      exact .inr ⟨⟨e, he, hf⟩, hn⟩

/-- A text is read if its tokens form a sentence that the limit leaves room for. -/
theorem parse_ok_iff_tokens {builder : Builder V F} : builder.parse text = .ok expression ↔
    ∃ ts after, Lexer.tokens (.ofText text) = .ok (ts ++ [.finish]) after ∧
      Sentence ts expression.root ∧ expression.root.nesting < builder.limit ∧
      expression.context = builder.context := by
  constructor
  · intro parsed
    obtain ⟨ts, last, after, hr, hl, hs, hc⟩ := sentence_of_parse parsed
    rcases builder.parse_of_sentence hr hl hs with ⟨-, hn⟩ | ⟨⟨e, he, -⟩, -⟩
    · exact ⟨ts, after, Lexer.tokens_of_reads hr hl, hs, hn, hc⟩
    · rw [parsed] at he
      cases he
  · intro ⟨ts, after, tokens, hs, hn, hc⟩
    obtain ⟨last, hr, hl⟩ := Lexer.reads_of_tokens tokens
    rcases builder.parse_of_sentence hr hl hs with ⟨hp, -⟩ | ⟨-, hdeep⟩
    · rw [hp, ← hc]
    · omega

/-- A text that is an expression at all is read as the same tree where the limit leaves room for it,
and is too deep elsewhere. Chains of operators that group to the left and rows of arguments take no
depth of their own. -/
theorem parse_limit (builder : Builder V F) (text : String) (expression : Expression V F)
    (parsed : builder.parse text = .ok expression) :
    (∀ limit, { builder with limit }.parse text = .ok expression ↔
      1 + expression.root.nesting ≤ limit) ∧
    (∀ limit, ¬ 1 + expression.root.nesting ≤ limit →
      ∃ e, { builder with limit }.parse text = .error e ∧ e.fault = .tooDeep limit) ∧
    (∀ first others, (∀ other ∈ others, other.1.rank.groupsLeft = true) →
      (Node.chain first others).nesting = Node.nestings (first :: others.map Prod.snd)) ∧
    ∀ name last earlier, Node.nesting ⟨.call, name, [Parser.pairUp last earlier]⟩ =
      1 + Node.nestings (last :: earlier) := by
  obtain ⟨ts, last, after, hr, hl, hs, hc⟩ := sentence_of_parse parsed
  have hexpression : expression = ⟨expression.root, builder.context⟩ := by rw [← hc]
  refine ⟨?_, ?_, Node.nesting_chain, ?_⟩
  · intro limit
    rcases parse_of_sentence { builder with limit } hr hl hs with ⟨h, hn⟩ | ⟨⟨e, h, -⟩, hn⟩
    · refine ⟨fun _ => Nat.one_add_le_iff.mpr hn, fun _ => ?_⟩
      rw [h, hexpression]
      rfl
    · have hdeep : ¬ 1 + expression.root.nesting ≤ limit :=
        fun hle => Nat.lt_irrefl _ (Nat.lt_of_lt_of_le (Nat.one_add_le_iff.mp hle) hn)
      simp [h, hdeep]
  · intro limit hdeep
    rcases parse_of_sentence { builder with limit } hr hl hs with ⟨-, hn⟩ | ⟨h, -⟩
    · exact absurd (Nat.one_add_le_iff.mpr hn) hdeep
    · exact h
  · intro name last earlier
    rw [Node.nesting_call, Node.nesting_pairUp]

/-- The brackets inside the call are what takes the depth here, and four levels are just enough. -/
theorem parse_limit_four :
    (∃ t, ({ limit := 4 } : Builder Empty Empty).parse "f(((1)),2+3-4)" = .ok t) ∧
      ∃ e, ({ limit := 3 } : Builder Empty Empty).parse "f(((1)),2+3-4)" = .error e ∧
        e.fault = .tooDeep 3 := by
  have h := parse_limit (V := Empty) (F := Empty) .empty "f(((1)),2+3-4)" ⟨⟨.call, "f",
      [.operator .arguments [.operator .group [.operator .group [.leaf .number "1"]],
        .operator (.operator .subtract) [.operator (.operator .add) [.leaf .number "2",
          .leaf .number "3"], .leaf .number "4"]]]⟩, Builder.empty.context⟩ (by cbv)
  exact ⟨⟨_, (h.1 4).mpr (by decide)⟩, h.2.1 3 (by decide)⟩

end Builder
end Formula
