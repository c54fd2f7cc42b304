import Formula.Proofs.Spacing
import Formula.Proofs.Terms

namespace Formula

/-- Tokens that can be spelled. -/
def Spellable (ts : List Token) : Prop :=
  ∀ t ∈ ts, ∃ word, Lexeme word t

variable {term : Term} {ts us : List Token} {t : Token} {word rest text : List Char}

namespace Spaced

theorem exists_of_spellable (h : Spellable ts) : ∃ text, Spaced text ts := by
  induction ts with
  | nil => exact ⟨[], .finish blank_nil⟩
  | cons t ts ih =>
    obtain ⟨hfirst, hothers⟩ := List.forall_mem_cons.mp h
    obtain ⟨word, spells⟩ := hfirst
    obtain ⟨text, others⟩ := ih hothers
    exact ⟨[] ++ (word ++ text), .word blank_nil spells others⟩

end Spaced

/-! Every term can be written. -/

theorem spellable_cons : Spellable (t :: ts) ↔ (∃ word, Lexeme word t) ∧ Spellable ts :=
  List.forall_mem_cons

theorem spellable_append : Spellable (ts ++ us) ↔ Spellable ts ∧ Spellable us :=
  List.forall_mem_append

theorem spellable_single (h : Lexeme word t) : Spellable [t] :=
  List.forall_mem_singleton.mpr ⟨word, h⟩

theorem Sign.lexeme_symbol (s : Sign) : ∃ word, Lexeme word s.symbol := by
  have listed : ∃ word, (word, s.symbol) ∈ symbols := by
    cases s <;> simp [symbols, symbol]
  obtain ⟨word, h⟩ := listed
  exact ⟨word, .symbol h⟩

theorem Operator.lexeme_symbol (op : Operator) : ∃ word, Lexeme word op.symbol := by
  have listed : ∃ word, (word, op.symbol) ∈ symbols := by
    cases op <;> simp [symbols, symbol]
  obtain ⟨word, h⟩ := listed
  exact ⟨word, .symbol h⟩

theorem spellable_further {tss : List (List Token)} (h : ∀ ts ∈ tss, Spellable ts) :
    Spellable (furtherTokens tss) := by
  intro t ht
  obtain ⟨ts, hts, ht⟩ := List.mem_flatMap.mp ht
  obtain rfl | ht := List.mem_cons.mp ht
  · exact ⟨[','], lexeme_comma⟩
  · exact h ts hts t ht

theorem spellable_call {tss : List (List Token)} (spelled : IsName name)
    (h : ∀ ts ∈ tss, Spellable ts) : Spellable (callTokens name tss) := by
  have named : ∃ word, Lexeme word (.identifier name) := ⟨name.toList, .name spelled⟩
  have opening : ∃ word, Lexeme word .leftParen := ⟨_, Bracket.lexeme_opening .round⟩
  have closing : Spellable [.rightParen] := spellable_single (Bracket.lexeme_closing .round)
  cases tss with
  | nil => exact spellable_cons.mpr ⟨named, spellable_cons.mpr ⟨opening, closing⟩⟩
  | cons ts tss =>
    obtain ⟨hfirst, hothers⟩ := List.forall_mem_cons.mp h
    simp only [callTokens, spellable_cons, spellable_append]
    exact ⟨named, opening, ⟨hfirst, spellable_further hothers⟩, spellable_cons.mp closing⟩

theorem Enclosed.exists_of_written (b : Bracket) (h : ∃ ts, Written term ts ∧ Spellable ts) :
    ∃ ts, Enclosed term ts ∧ Spellable ts := by
  obtain ⟨ts, hw, hs⟩ := h
  refine ⟨_, .brackets b hw, ?_⟩
  simp only [spellable_cons, spellable_append]
  exact ⟨⟨_, b.lexeme_opening⟩, hs, spellable_cons.mp (spellable_single b.lexeme_closing)⟩

theorem exists_enclosed {terms : List Term}
    (h : ∀ term ∈ terms, ∃ ts, Written term ts ∧ Spellable ts) :
    ∃ tss, List.Forall₂ Enclosed terms tss ∧ ∀ ts ∈ tss, Spellable ts := by
  induction terms with
  | nil => exact ⟨[], .nil, by simp⟩
  | cons term terms ih =>
    obtain ⟨hfirst, hothers⟩ := List.forall_mem_cons.mp h
    obtain ⟨ts, he, hs⟩ := Enclosed.exists_of_written .round hfirst
    obtain ⟨tss, hall, hspell⟩ := ih hothers
    exact ⟨ts :: tss, .cons he hall, List.forall_mem_cons.mpr ⟨hs, hspell⟩⟩

theorem Term.exists_written (term : Term) : ∃ ts, Written term ts ∧ Spellable ts := by
  induction term with
  | number text spelled => exact ⟨_, .number, spellable_single (.number spelled)⟩
  | identifier name spelled => exact ⟨_, .identifier, spellable_single (.name spelled)⟩
  | call name spelled arguments ih =>
    obtain ⟨tss, hall, hspell⟩ := exists_enclosed ih
    exact ⟨_, .call hall, spellable_call spelled hspell⟩
  | sign s operand ih =>
    obtain ⟨ts, he, hs⟩ := Enclosed.exists_of_written .round ih
    exact ⟨_, .sign he, spellable_cons.mpr ⟨s.lexeme_symbol, hs⟩⟩
  | operator op left right ih ih' =>
    obtain ⟨ts, he, hs⟩ := Enclosed.exists_of_written .round ih
    obtain ⟨us, he', hs'⟩ := Enclosed.exists_of_written .round ih'
    refine ⟨_, .operator he he', ?_⟩
    simp only [spellable_cons, spellable_append]
    exact ⟨hs, op.lexeme_symbol, hs'⟩
  | conditional condition yes no ih ih' ih'' =>
    obtain ⟨cs, hc, hcs⟩ := Enclosed.exists_of_written .round ih
    obtain ⟨ys, hy, hys⟩ := Enclosed.exists_of_written .round ih'
    obtain ⟨ns, hn, hns⟩ := Enclosed.exists_of_written .round ih''
    have question : Lexeme ['?'] .question := .symbol (by decide)
    have colon : Lexeme [':'] .colon := .symbol (by decide)
    refine ⟨_, .conditional hc hy hn, ?_⟩
    simp only [spellable_cons, spellable_append]
    exact ⟨hcs, ⟨_, question⟩, hys, ⟨_, colon⟩, hns⟩

namespace Builder

/-- Every expression can be written with all its operands and arguments in brackets, and however
this is done and spaced, it is read back where there is room. -/
theorem parse_written (builder : Builder V F) (term : Term) :
    (∃ ts, ∃ text : String, Written term ts ∧ Spaced text.toList ts) ∧
    ∀ ts (text : String), Written term ts → Spaced text.toList ts → ∃ root : Node,
      root.without [.group] = term.tree ∧ ∃ enough, ∀ limit, enough ≤ limit →
        { builder with limit }.parse text = .ok ⟨root, builder.context⟩ := by
  constructor
  · obtain ⟨ts, written, hs⟩ := term.exists_written
    obtain ⟨text, spaced⟩ := Spaced.exists_of_spellable hs
    exact ⟨ts, .ofList text, written, String.toList_ofList ▸ spaced⟩
  · intro ts text written spaced
    obtain ⟨root, hs, hroot⟩ := written.sentence
    refine ⟨root, hroot, root.nesting + 1, ?_⟩
    intro limit room
    exact parse_of_layout { builder with limit } (spaced.layout hs.meets) hs room

theorem isNumber_one : IsNumber "1" :=
  ⟨['1'], [], [], by cbv, by simp, .inl rfl, .inl rfl, by simp⟩

theorem isName_f : IsName "f" :=
  ⟨'f', [], by cbv, by decide, by simp⟩

theorem isName_x : IsName "x" :=
  ⟨'x', [], by cbv, by decide, by simp⟩

/-- The opposite of the value of a function at a number and a variable. -/
def opposite : Term :=
  .sign .minus (.call "f" isName_f [.number "1" isNumber_one,
    .identifier "x" isName_x])

theorem written_opposite : Written opposite [.minus, .leftBracket, .identifier "f", .leftParen,
    .leftBracket, .number "1", .rightBracket, .comma, .leftParen, .identifier "x", .rightParen,
    .rightParen, .rightBracket] :=
  .sign (.brackets .square (.call (.cons (.brackets .square .number)
    (.cons (.brackets .round .identifier) .nil))))

theorem spaced_opposite : Spaced "-[f ([1] ,(x))]".toList [.minus, .leftBracket, .identifier "f",
    .leftParen, .leftBracket, .number "1", .rightBracket, .comma, .leftParen, .identifier "x",
    .rightParen, .rightParen, .rightBracket] := by
  have htext : "-[f ([1] ,(x))]".toList =
      ['-', '[', 'f', ' ', '(', '[', '1', ']', ' ', ',', '(', 'x', ')', ')', ']'] := by cbv
  have hf : Lexeme ['f'] (.identifier "f") := .name isName_f
  have hx : Lexeme ['x'] (.identifier "x") := .name isName_x
  have hone : Lexeme ['1'] (.number "1") := .number isNumber_one
  have blank : Text.isBlank ' ' = true := by decide
  rw [htext]
  apply Spaced.single (.symbol (by decide))
  apply Spaced.single (.symbol (by decide))
  apply Spaced.single hf
  apply Spaced.blank blank
  apply Spaced.single (.symbol (by decide))
  apply Spaced.single (.symbol (by decide))
  apply Spaced.single hone
  apply Spaced.single (.symbol (by decide))
  apply Spaced.blank blank
  apply Spaced.single (.symbol (by decide))
  apply Spaced.single (.symbol (by decide))
  apply Spaced.single hx
  apply Spaced.single (.symbol (by decide))
  apply Spaced.single (.symbol (by decide))
  apply Spaced.single (.symbol (by decide))
  exact .finish blank_nil

theorem parse_written_opposite : ∃ root : Node, root.without [.group] =
      .operator (.sign .minus) [⟨.call, "f", [.operator .arguments [.leaf .number "1",
        .leaf .identifier "x"]]⟩] ∧
      ∃ limit, ({ limit } : Builder Empty Empty).parse "-[f ([1] ,(x))]" =
        .ok ⟨root, empty.context⟩ := by
  obtain ⟨-, read⟩ := parse_written (empty : Builder Empty Empty) opposite
  obtain ⟨root, hroot, enough, parsed⟩ := read _ _ written_opposite spaced_opposite
  exact ⟨root, hroot, enough, parsed enough (Nat.le_refl enough)⟩

end Builder
end Formula
