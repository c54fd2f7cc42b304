import Formula.Proofs.Openings
import Formula.Proofs.Spacing

namespace Formula

/-- Tokens that are no names and open or close no brackets. -/
def Token.plain : Token → Bool
  | .identifier _ => false
  | .leftParen | .rightParen | .leftBracket | .rightBracket | .leftBrace | .rightBrace => false
  | _ => true

theorem Sign.plain_symbol (s : Sign) : s.symbol.plain = true := by
  cases s <;> rfl

theorem Operator.plain_symbol (op : Operator) : op.symbol.plain = true := by
  cases op <;> rfl

theorem Operator.symbol_ne_leftParen (op : Operator) : op.symbol ≠ .leftParen := by
  cases op <;> simp [symbol]

namespace Bracket

theorem not_plain_opening (b : Bracket) : b.opening.plain = false := by
  cases b <;> rfl

theorem not_plain_closing (b : Bracket) : b.closing.plain = false := by
  cases b <;> rfl

theorem opening_ne_closing (b b' : Bracket) : b.opening ≠ b'.closing := by
  cases b <;> cases b' <;> simp [opening, closing]

end Bracket

/-- Tokens that are the same but for the style of the brackets around expressions. A parenthesis
behind a name opens the arguments of a call and is kept, as is the one that closes them. The
brackets that have been opened in front of the tokens are given in both styles, the last one
first. -/
inductive Rebracketed : List (Bracket × Bracket) → List Token → List Token → Prop where
  | none : Rebracketed [] [] []
  | word (plain : t.plain = true) (others : Rebracketed due ts us) :
      Rebracketed due (t :: ts) (t :: us)
  | identifier (alone : ts.head? ≠ some .leftParen) (others : Rebracketed due ts us) :
      Rebracketed due (.identifier name :: ts) (.identifier name :: us)
  | call (others : Rebracketed ((.round, .round) :: due) ts us) :
      Rebracketed due (.identifier name :: .leftParen :: ts) (.identifier name :: .leftParen :: us)
  | opening (b b' : Bracket) (others : Rebracketed ((b, b') :: due) ts us) :
      Rebracketed due (b.opening :: ts) (b'.opening :: us)
  | closing (others : Rebracketed due ts us) :
      Rebracketed ((b, b') :: due) (b.closing :: ts) (b'.closing :: us)

namespace Rebracketed

variable {due : List (Bracket × Bracket)} {ts us : List Token} {t : Token} {b b' : Bracket}

theorem kept (h : Rebracketed due (t :: ts) us) (plain : t.plain = true) :
    ∃ ws, us = t :: ws ∧ Rebracketed due ts ws := by
  cases h with
  | word _ others => exact ⟨_, rfl, others⟩
  | identifier | call => cases plain
  | opening b => cases b.not_plain_opening.symm.trans plain
  | @closing _ _ _ b => cases b.not_plain_closing.symm.trans plain

theorem referred (h : Rebracketed due (.identifier name :: ts) us)
    (alone : ts.head? ≠ some .leftParen) :
    ∃ ws, us = .identifier name :: ws ∧ Rebracketed due ts ws := by
  generalize hrow : Token.identifier name :: ts = row at h
  cases h with
  | none => cases hrow
  | word plain =>
    cases hrow
    cases plain
  | identifier _ others =>
    cases hrow
    exact ⟨_, rfl, others⟩
  | call others =>
    cases hrow
    exact absurd rfl alone
  | opening b => exact absurd (List.cons.inj hrow).1.symm (b.opening_ne_identifier name)
  | @closing _ _ _ b => exact absurd (List.cons.inj hrow).1.symm (b.closing_ne_identifier name)

theorem called (h : Rebracketed due (.identifier name :: .leftParen :: ts) us) :
    ∃ ws, us = .identifier name :: .leftParen :: ws ∧
      Rebracketed ((.round, .round) :: due) ts ws := by
  generalize hrow : Token.identifier name :: .leftParen :: ts = row at h
  cases h with
  | none => cases hrow
  | word plain =>
    cases hrow
    cases plain
  | identifier alone _ =>
    cases hrow
    exact absurd rfl alone
  | call others =>
    cases hrow
    exact ⟨_, rfl, others⟩
  | opening b => exact absurd (List.cons.inj hrow).1.symm (b.opening_ne_identifier name)
  | @closing _ _ _ b => exact absurd (List.cons.inj hrow).1.symm (b.closing_ne_identifier name)

theorem opened (h : Rebracketed due (b.opening :: ts) us) :
    ∃ b' ws, us = b'.opening :: ws ∧ Rebracketed ((b, b') :: due) ts ws := by
  generalize hrow : b.opening :: ts = row at h
  cases h with
  | none => cases hrow
  | word plain =>
    cases hrow
    cases b.not_plain_opening.symm.trans plain
  | identifier | call => exact absurd (List.cons.inj hrow).1 (b.opening_ne_identifier _)
  | opening b₁ b' others =>
    obtain ⟨same, rfl⟩ := List.cons.inj hrow
    obtain rfl := Bracket.opening_injective same
    exact ⟨b', _, rfl, others⟩
  | closing => exact absurd (List.cons.inj hrow).1 (b.opening_ne_closing _)

theorem closed (h : Rebracketed ((b, b') :: due) (b.closing :: ts) us) :
    ∃ ws, us = b'.closing :: ws ∧ Rebracketed due ts ws := by
  generalize hrow : b.closing :: ts = row at h
  cases h with
  | word plain =>
    cases hrow
    cases b.not_plain_closing.symm.trans plain
  | identifier | call => exact absurd (List.cons.inj hrow).1 (b.closing_ne_identifier _)
  | opening b₁ => exact absurd (List.cons.inj hrow).1.symm (b₁.opening_ne_closing _)
  | closing others =>
    cases hrow
    exact ⟨_, rfl, others⟩

end Rebracketed

namespace Derives

theorem head?_behind {vs : List Token} (h : ∀ a ∈ vs.head?, a = next) (us : List Token) :
    ∀ a ∈ (us ++ vs).head?, a = us.headD next := by
  cases us with
  | nil => exact h
  | cons _ _ => simp

/-- A phrase is the same in other brackets. The tokens that are left start with the one behind the
phrase, so that it is known at a name whether it is called. -/
theorem rebracket (h : Derives φ ts next t) (behind : ∀ a ∈ vs.head?, a = next)
    (hn : next ≠ .leftParen) (hr : Rebracketed due (ts ++ vs) row) :
    ∃ us rest, row = us ++ rest ∧ Derives φ us next t ∧ Rebracketed due vs rest := by
  induction h generalizing due vs row with
  | number =>
    obtain ⟨rest, rfl, hrest⟩ := hr.kept rfl
    exact ⟨[_], rest, rfl, .number, hrest⟩
  | identifier open? =>
    have alone : vs.head? ≠ some .leftParen := fun h => hn (behind _ h).symm
    obtain ⟨rest, rfl, hrest⟩ := hr.referred alone
    exact ⟨[_], rest, rfl, .identifier open?, hrest⟩
  | emptyCall =>
    obtain ⟨_, rfl, hclosing⟩ := hr.called
    obtain ⟨rest, rfl, hrest⟩ := hclosing.closed
    exact ⟨[_, _, _], rest, rfl, .emptyCall, hrest⟩
  | call all ih =>
    simp only [List.cons_append, List.append_assoc] at hr
    obtain ⟨_, rfl, hinner⟩ := hr.called
    obtain ⟨us, _, rfl, hus, hclosing⟩ := ih (by simp) (by simp) hinner
    obtain ⟨rest, rfl, hrest⟩ := hclosing.closed
    exact ⟨_ :: _ :: (us ++ [_]), rest, by simp [Bracket.closing], .call hus, hrest⟩
  | group b inner ih =>
    simp only [List.cons_append, List.append_assoc] at hr
    obtain ⟨b', _, rfl, hinner⟩ := hr.opened
    obtain ⟨us, _, rfl, hus, hclosing⟩ := ih (by simp) b.closing_ne_leftParen hinner
    obtain ⟨rest, rfl, hrest⟩ := hclosing.closed
    refine ⟨b'.opening :: (us ++ [b'.closing]), rest, by simp, ?_, hrest⟩
    exact .group b' (hus.behind b'.closing_ne_leftParen)
  | unsigned alone ih =>
    obtain ⟨us, rest, rfl, hus, hrest⟩ := ih behind hn hr
    exact ⟨us, rest, rfl, .unsigned hus, hrest⟩
  | sign s operand ih =>
    obtain ⟨_, rfl, hoperand⟩ := hr.kept s.plain_symbol
    obtain ⟨us, rest, rfl, hus, hrest⟩ := ih behind hn hoperand
    exact ⟨_ :: us, rest, rfl, .sign s hus, hrest⟩
  | operand right alone ih =>
    obtain ⟨us, rest, rfl, hus, hrest⟩ := ih behind hn hr
    exact ⟨us, rest, rfl, .operand right hus, hrest⟩
  | rightward op level right left again ih ih' =>
    simp only [List.cons_append, List.append_assoc] at hr
    obtain ⟨us, _, rfl, hus, hop⟩ := ih (by simp) op.symbol_ne_leftParen hr
    obtain ⟨_, rfl, hagain⟩ := hop.kept op.plain_symbol
    obtain ⟨ws, rest, rfl, hws, hrest⟩ := ih' behind hn hagain
    exact ⟨us ++ op.symbol :: ws, rest, by simp, .rightward op level right hus hws, hrest⟩
  | @leftward _ _ _ ts' _ _ left first others ih ih' =>
    rw [List.append_assoc] at hr
    obtain ⟨us, _, rfl, hus, hothers⟩ :=
      ih (head?_behind behind ts') (others.joined_ahead_ne hn) hr
    obtain ⟨ws, rest, rfl, hws, hrest⟩ := ih' behind hn hothers
    refine ⟨us ++ ws, rest, by simp, ?_, hrest⟩
    exact .leftward left (hus.behind (hws.joined_ahead_ne hn)) hws
  | unconditional alone ih =>
    obtain ⟨us, rest, rfl, hus, hrest⟩ := ih behind hn hr
    exact ⟨us, rest, rfl, .unconditional hus, hrest⟩
  | conditional condition yes no ih ih' ih'' =>
    simp only [List.cons_append, List.append_assoc] at hr
    obtain ⟨cs, _, rfl, hcs, hquestion⟩ := ih (by simp) (by simp) hr
    obtain ⟨_, rfl, hchoices⟩ := hquestion.kept rfl
    obtain ⟨ys, _, rfl, hys, hcolon⟩ := ih' (by simp) (by simp) hchoices
    obtain ⟨_, rfl, hno⟩ := hcolon.kept rfl
    obtain ⟨ns, rest, rfl, hns, hrest⟩ := ih'' behind hn hno
    exact ⟨cs ++ .question :: (ys ++ .colon :: ns), rest, by simp, .conditional hcs hys hns, hrest⟩
  | joinedNone => exact ⟨[], row, rfl, .joinedNone, hr⟩
  | @joinedMore _ _ _ _ ts' _ _ op level operand others ih ih' =>
    simp only [List.cons_append, List.append_assoc] at hr
    obtain ⟨_, rfl, hoperand⟩ := hr.kept op.plain_symbol
    obtain ⟨us, _, rfl, hus, hothers⟩ :=
      ih (head?_behind behind ts') (others.joined_ahead_ne hn) hoperand
    obtain ⟨ws, rest, rfl, hws, hrest⟩ := ih' behind hn hothers
    refine ⟨op.symbol :: (us ++ ws), rest, by simp, ?_, hrest⟩
    exact .joinedMore op level (hus.behind (hws.joined_ahead_ne hn)) hws
  | @arguments _ _ ts' _ _ first others ih ih' =>
    rw [List.append_assoc] at hr
    obtain ⟨us, _, rfl, hus, hothers⟩ :=
      ih (head?_behind behind ts') (others.further_ahead_ne hn) hr
    obtain ⟨ws, rest, rfl, hws, hrest⟩ := ih' behind hn hothers
    refine ⟨us ++ ws, rest, by simp, ?_, hrest⟩
    exact .arguments (hus.behind (hws.further_ahead_ne hn)) hws
  | furtherNone => exact ⟨[], row, rfl, .furtherNone, hr⟩
  | furtherMore others ih =>
    obtain ⟨_, rfl, hothers⟩ := hr.kept rfl
    obtain ⟨us, rest, rfl, hus, hrest⟩ := ih behind hn hothers
    exact ⟨_ :: us, rest, rfl, .furtherMore hus, hrest⟩

end Derives

namespace Builder

/-- The style of brackets around an expression does not matter, nor do blanks between the tokens or
the spellings of an operator. However the tokens of an expression are written in other brackets,
the text has these tokens, and every text that has them is accepted under the same limit as the
same tree, and comes to the same. -/
theorem parse_rebracketed (builder : Builder V F) (source : String) (ts us : List Token)
    (expression : Expression V F) (parsed : builder.parse source = .ok expression)
    (tokens : Lexer.tokens (.ofText source) = .ok (ts ++ [.finish]) after)
    (rebracketed : Rebracketed [] ts us) :
    (∀ other : String, Spaced other.toList us →
      ∃ after', Lexer.tokens (.ofText other) = .ok (us ++ [.finish]) after') ∧
    ∀ (other : String) (after' : Lexer),
      Lexer.tokens (.ofText other) = .ok (us ++ [.finish]) after' →
      builder.parse other = .ok expression ∧
      ∀ (σ : Type) (host : Host V F σ) (s : σ),
        builder.eval host other s = builder.eval host source s ∧
        ∀ expression', builder.parse other = .ok expression' → ∀ context : Context V F,
          Expression.eval host ⟨expression'.root, context⟩ s =
            Expression.eval host ⟨expression.root, context⟩ s := by
  obtain ⟨words, _, hwords, sentence, room, own⟩ := parse_ok_iff_tokens.mp parsed
  rw [tokens] at hwords
  obtain ⟨same, -⟩ := EStateM.Result.ok.inj hwords
  obtain rfl := List.append_cancel_right same
  have rebuilt : Sentence us expression.root := by
    rw [← List.append_nil ts] at rebracketed
    obtain ⟨words', _, rfl, sentence', ⟨⟩⟩ := sentence.rebracket (by simp) (by simp) rebracketed
    rwa [List.append_nil]
  refine ⟨fun other spaced => (spaced.layout rebuilt.meets).tokens, ?_⟩
  intro other after' tokens'
  have parsed' : builder.parse other = .ok expression :=
    parse_ok_iff_tokens.mpr ⟨us, after', tokens', rebuilt, room, own⟩
  refine ⟨parsed', fun σ host s => ⟨?_, fun expression' parsed'' context => ?_⟩⟩
  · rw [eval, eval, parsed, parsed']
  · rw [parsed'] at parsed''
    cases parsed''
    rfl

/-- The tokens of `f([1+x])<={(2)}` with the given brackets around the sum and around the number. -/
def boundTokens (b outer inner : Bracket) : List Token :=
  [.identifier "f", .leftParen, b.opening, .number "1", .plus, .identifier "x", b.closing,
    .rightParen, .lessEqual, outer.opening, inner.opening, .number "2", inner.closing,
    outer.closing]

def boundTree : Node :=
  .operator (.operator .lessEqual) [
    ⟨.call, "f", [.operator .group
      [.operator (.operator .add) [.leaf .number "1", .leaf .identifier "x"]]]⟩,
    .operator .group [.operator .group [.leaf .number "2"]]]

/-- The parentheses of the call stay, and each of the other pairs changes by itself. -/
theorem rebracketed_boundTokens (b b' outer outer' inner inner' : Bracket) :
    Rebracketed [] (boundTokens b outer inner) (boundTokens b' outer' inner') := by
  refine .call (.opening b b' ?_)
  refine .word rfl (.word rfl (.identifier ?_ (.closing ?_)))
  · cases b <;> simp [Bracket.closing]
  refine @Rebracketed.closing _ _ _ .round .round (.word rfl ?_)
  refine .opening outer outer' (.opening inner inner' (.word rfl ?_))
  exact .closing (.closing .none)

/-- One name and one operator are spaced, and the operator is in its other spelling. -/
theorem spaced_boundTokens :
    Spaced "f (\x7b1+x\x7d)=< [[2]]".toList (boundTokens .curly .square .square) := by
  have htext : "f (\x7b1+x\x7d)=< [[2]]".toList =
      ['f', ' ', '(', '\x7b', '1', '+', 'x', '\x7d', ')', '=', '<', ' ', '[', '[', '2', ']',
        ']'] := by cbv
  have name_f : IsName "f" := ⟨'f', [], by cbv, by decide, by simp⟩
  have name_x : IsName "x" := ⟨'x', [], by cbv, by decide, by simp⟩
  have number_one : IsNumber "1" := ⟨['1'], [], [], by cbv, by simp, .inl rfl, .inl rfl, by simp⟩
  have number_two : IsNumber "2" := ⟨['2'], [], [], by cbv, by simp, .inl rfl, .inl rfl, by simp⟩
  have hf : Lexeme ['f'] (.identifier "f") := .name name_f
  have hx : Lexeme ['x'] (.identifier "x") := .name name_x
  have hone : Lexeme ['1'] (.number "1") := .number number_one
  have htwo : Lexeme ['2'] (.number "2") := .number number_two
  have blank : Text.isBlank ' ' = true := by decide
  rw [htext]
  apply Spaced.single hf
  apply Spaced.blank blank
  apply Spaced.single (.symbol (by decide))
  apply Spaced.single (.symbol (by decide))
  apply Spaced.single hone
  apply Spaced.single (.symbol (by decide))
  apply Spaced.single hx
  apply Spaced.single (.symbol (by decide))
  apply Spaced.single (.symbol (by decide))
  refine @Spaced.word [] ['=', '<'] .lessEqual _ _ blank_nil (.symbol (by decide)) ?_
  apply Spaced.blank blank
  apply Spaced.single (.symbol (by decide))
  apply Spaced.single (.symbol (by decide))
  apply Spaced.single htwo
  apply Spaced.single (.symbol (by decide))
  apply Spaced.single (.symbol (by decide))
  exact .finish blank_nil

set_option maxRecDepth 1024 in
theorem parse_rebracketed_bound : ({ limit := 4 } : Builder String String).parse
    "f (\x7b1+x\x7d)=< [[2]]" = .ok ⟨boundTree, empty.context⟩ := by
  have parsed : ({ limit := 4 } : Builder String String).parse "f([1+x])<=\x7b(2)\x7d" =
      .ok ⟨boundTree, empty.context⟩ := by cbv
  have tokens : Lexer.tokens (.ofText "f([1+x])<=\x7b(2)\x7d") =
      .ok (boundTokens .square .curly .round ++ [.finish])
        ⟨"f([1+x])<=\x7b(2)\x7d", [], 15, 15⟩ := by cbv
  obtain ⟨reads, same⟩ := parse_rebracketed _ _ _ _ _ parsed tokens
    (rebracketed_boundTokens .square .curly .curly .square .round .square)
  obtain ⟨after', tokens'⟩ := reads _ spaced_boundTokens
  exact (same _ _ tokens').1

end Builder
end Formula
