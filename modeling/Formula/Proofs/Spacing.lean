import Formula.Proofs.Layouts

namespace Formula

/-- A text is made of words that are spelled as some tokens, with any blanks around them. -/
inductive Spaced : List Char → List Token → Prop where
  | finish (blank : Blank blanks) : Spaced blanks []
  | word (blank : Blank blanks) (spells : Lexeme word t) (others : Spaced rest ts) :
      Spaced (blanks ++ (word ++ rest)) (t :: ts)

/-- Tokens that no other token runs into, whatever stands next to them. -/
inductive Token.Divides : Token → Prop where
  | opening (b : Bracket) : Divides b.opening
  | closing (b : Bracket) : Divides b.closing
  | comma : Divides .comma

namespace Token

/-- The operators and brackets, and what else is spelled as they are. -/
def symbolic : Token → Bool
  | .number _ | .identifier _ | .finish => false
  | _ => true

/-- Two tokens need no blank between them. -/
def Meets (t u : Token) : Prop :=
  ∀ word c cs, Lexeme word t → Lexeme (c :: cs) u → ∀ rest,
    Reading.ofText (word ++ c :: rest) = .token t word.length

/-- Tokens that can stand next to each other in a sentence. A number or a name has an operator or a
bracket behind it, and an operator stands in front of an expression. -/
inductive Neighbours : Token → Token → Prop where
  | number (symbolic : u.symbolic = true) : Neighbours (.number spelling) u
  | identifier (symbolic : u.symbolic = true) : Neighbours (.identifier name) u
  | divided (divides : t.Divides) : Neighbours t u
  | ahead (symbolic : t.symbolic = true) (starts : u.startsExpression = true) : Neighbours t u

end Token

theorem Sign.symbolic_symbol (s : Sign) : s.symbol.symbolic = true := by
  cases s <;> rfl

theorem Operator.symbolic_symbol (op : Operator) : op.symbol.symbolic = true := by
  cases op <;> rfl

theorem Bracket.symbolic_closing (b : Bracket) : b.closing.symbolic = true := by
  cases b <;> rfl

/-- The characters that can follow another one in a symbol. -/
def symbolTails : List Char :=
  ['=', '<', '>', '&', '|']

section

variable {ts : List Token} {t u : Token} {word rest : List Char} {c : Char}

theorem Token.Divides.spelled (h : t.Divides) (hl : Lexeme word t) :
    ∃ c, word = [c] ∧ Apart c := by
  cases h with
  | opening b => exact ⟨b.openingChar, b.opening_spelled hl, apart_opening b⟩
  | closing b => exact ⟨b.closingChar, b.closing_spelled hl, apart_closing b⟩
  | comma => exact ⟨',', lexeme_spelled (by decide) (by simp) (by simp) hl, apart_comma⟩

theorem symbolic_of_mem (h : (word, t) ∈ symbols) : t.symbolic = true := by
  have all : ∀ symbol ∈ symbols, symbol.2.symbolic = true := by decide
  exact all _ h

theorem Lexeme.symbol_of_symbolic (h : Lexeme word t) (ht : t.symbolic = true) :
    (word, t) ∈ symbols := by
  cases h with
  | number | name => cases ht
  | symbol h => exact h

theorem Lexeme.start_of_symbolic (h : Lexeme (c :: word) t) (ht : t.symbolic = true) :
    c ∈ Reading.symbolStarts := by
  obtain ⟨d, ds, hword, hd⟩ := Reading.symbol_start (h.symbol_of_symbolic ht)
  cases hword
  exact hd

/-- No expression starts with a character that could go on with a symbol. -/
theorem not_mem_symbolTails (h : Lexeme (c :: word) t) (ht : t.startsExpression = true) :
    c ∉ symbolTails := by
  have starts : ∀ d ∈ symbolTails, d ∈ Reading.symbolStarts := by
    simp [symbolTails, Reading.symbolStarts]
  have other : ∀ symbol ∈ symbols, symbol.2.startsExpression = true →
      symbolTails.contains (symbol.1.headD ' ') = false := by decide
  obtain ⟨d, ds, hword, ⟨-, hmem⟩ | ⟨hd, -⟩ | ⟨hd, -⟩⟩ := Reading.lexeme_start h
  · simpa using other _ hmem ht
  · cases hword
    exact fun hc => Reading.not_mem_symbolStarts_of_number hd (starts _ hc)
  · cases hword
    exact fun hc => Reading.not_mem_symbolStarts hd (starts _ hc)

namespace Reading

theorem continuesName_of_symbolStarts (hc : c ∈ symbolStarts) : continuesName c = false := by
  have other : symbolStarts.all (fun x => !continuesName x) = true := by decide
  simpa using List.all_eq_true.mp other c hc

/-- An operator or a bracket ends a number. -/
theorem ofText_number_symbol (h : IsNumber text) (hc : c ∈ symbolStarts) (rest : List Char) :
    ofText (text.toList ++ c :: rest) = .token (.number text) text.toList.length := by
  obtain ⟨whole, fraction, exponent, htext, parts⟩ := h
  obtain ⟨d, ds, hcons, hd⟩ := parts.head
  have digit : c.isDigit = false := by
    by_contra hdigit
    exact not_mem_symbolStarts_of_number (.inr (by simpa using hdigit)) hc
  have mark : c ≠ '.' ∧ c ≠ 'e' ∧ c ≠ 'E' := by
    refine ⟨?_, ?_, ?_⟩ <;> rintro rfl <;> exact absurd hc (by decide)
  have read : number (whole ++ (fraction ++ exponent) ++ c :: rest) =
      .token (.number (.ofList (whole ++ (fraction ++ exponent))))
        (whole ++ (fraction ++ exponent)).length := by
    apply number_run parts <;> simp [digit, mark]
  rw [htext, hcons, List.cons_append, ofText_of_number hd, ← List.cons_append, ← hcons, read,
    ← htext, String.ofList_toList]

/-- An operator or a bracket ends a name. -/
theorem ofText_name_symbol {spelling : String} (h : IsName spelling) (hc : c ∈ symbolStarts)
    (rest : List Char) : ofText (spelling.toList ++ c :: rest) =
      .token (.identifier spelling) spelling.toList.length := by
  obtain ⟨d, ds, htext, hd, hds⟩ := h
  have inside : ∀ e ∈ d :: ds, continuesName e = true :=
    List.forall_mem_cons.mpr ⟨continuesName_of_starts hd, hds⟩
  have ends : ∀ e ∈ (c :: rest).head?, continuesName e = false := by
    rintro e ⟨⟩
    exact continuesName_of_symbolStarts hc
  rw [htext, List.cons_append, ofText_of_name hd, ← List.cons_append, name,
    takeWhile_run inside ends, ← htext, String.ofList_toList]

/-- An operator or a bracket is read in front of a character that no symbol goes on with. -/
theorem ofText_symbol_ahead (h : (word, t) ∈ symbols) (hc : c ∉ symbolTails) (rest : List Char) :
    ofText (word ++ c :: rest) = .token t word.length := by
  refine ofText_of_longest_symbol (fun d hd t' h' => ?_) h
  cases hd
  have tails : ∀ symbol ∈ symbols, symbol.1.tail.all (symbolTails.contains ·) = true := by decide
  obtain ⟨e, es, rfl, he⟩ := symbol_start h
  obtain ⟨d, ds, hword, ⟨-, hmem⟩ | ⟨hd, -⟩ | ⟨hd, -⟩⟩ := lexeme_start h'
  · have tail := List.all_eq_true.mp (tails _ hmem) c (by simp)
    simp [hc] at tail
  · cases hword
    exact not_mem_symbolStarts_of_number hd he
  · cases hword
    exact not_mem_symbolStarts hd he

end Reading

namespace Token

theorem Divides.meets (h : t.Divides) (u : Token) : t.Meets u := by
  intro word c cs spells _ rest
  obtain ⟨d, rfl, hd⟩ := h.spelled spells
  exact Reading.ofText_single spells hd _

theorem number_meets (spelling : String) (hu : u.symbolic = true) :
    (number spelling).Meets u := by
  intro word c cs spells spells' rest
  cases spells with
  | number h => exact Reading.ofText_number_symbol h (spells'.start_of_symbolic hu) rest
  | symbol h => cases symbolic_of_mem h

theorem identifier_meets (name : String) (hu : u.symbolic = true) :
    (identifier name).Meets u := by
  intro word c cs spells spells' rest
  cases spells with
  | name h => exact Reading.ofText_name_symbol h (spells'.start_of_symbolic hu) rest
  | symbol h => cases symbolic_of_mem h

/-- In front of an expression an operator or a bracket needs no blank. -/
theorem meets_of_starts (ht : t.symbolic = true) (hu : u.startsExpression = true) :
    t.Meets u := by
  intro word c cs spells spells' rest
  exact Reading.ofText_symbol_ahead (spells.symbol_of_symbolic ht) (not_mem_symbolTails spells' hu)
    rest

theorem Neighbours.meets (h : t.Neighbours u) : t.Meets u := by
  cases h with
  | number symbolic => exact number_meets _ symbolic
  | identifier symbolic => exact identifier_meets _ symbolic
  | divided divides => exact divides.meets _
  | ahead symbolic starts => exact meets_of_starts symbolic starts

theorem Divides.chain (h : t.Divides) (others : ts.IsChain Neighbours) :
    (t :: ts).IsChain Neighbours :=
  List.isChain_cons.mpr ⟨fun _ _ => .divided h, others⟩

end Token

end

namespace Derives

variable {φ : Phrase} {ts us rest : List Token} {a next : Token} {t u : Node}

theorem joined_symbolic (h : Derives (.joined r t) us next u)
    (ahead : ∀ a ∈ rest.head?, a.symbolic = true) :
    ∀ a ∈ (us ++ rest).head?, a.symbolic = true := by
  cases h with
  | joinedNone => exact ahead
  | joinedMore op => simp [op.symbolic_symbol]

theorem further_symbolic (h : Derives (.further t) us next u)
    (ahead : ∀ a ∈ rest.head?, a.symbolic = true) :
    ∀ a ∈ (us ++ rest).head?, a.symbolic = true := by
  cases h with
  | furtherNone => exact ahead
  | furtherMore => simp [Token.symbolic]

theorem neighbours_cons (h : Derives φ ts next t) (solid : φ.Solid) (ha : a.symbolic = true)
    (chain : (ts ++ rest).IsChain Token.Neighbours) :
    (a :: (ts ++ rest)).IsChain Token.Neighbours := by
  obtain ⟨b, us, rfl, hb⟩ := h.head solid
  exact List.isChain_cons_cons.mpr ⟨.ahead ha hb, chain⟩

/-- What stands next to each other in a phrase, where an operator or a bracket stands behind it. -/
theorem neighbours (h : Derives φ ts next t) (others : rest.IsChain Token.Neighbours)
    (ahead : ∀ a ∈ rest.head?, a.symbolic = true) : (ts ++ rest).IsChain Token.Neighbours := by
  induction h generalizing rest with
  | number => exact List.isChain_cons.mpr ⟨fun a ha => .number (ahead a ha), others⟩
  | identifier => exact List.isChain_cons.mpr ⟨fun a ha => .identifier (ahead a ha), others⟩
  | emptyCall =>
    have closing := (Token.Divides.closing .round).chain others
    have opening := (Token.Divides.opening .round).chain closing
    exact List.isChain_cons_cons.mpr ⟨.identifier rfl, opening⟩
  | call all ih =>
    have hall := ih ((Token.Divides.closing .round).chain others)
      (by simp [Bracket.symbolic_closing])
    have opening := (Token.Divides.opening .round).chain hall
    rw [List.cons_append, List.cons_append, List.append_assoc]
    exact List.isChain_cons_cons.mpr ⟨.identifier rfl, opening⟩
  | group b inner ih =>
    have hinner := ih ((Token.Divides.closing b).chain others) (by simp [b.symbolic_closing])
    simpa using (Token.Divides.opening b).chain hinner
  | unsigned _ ih | operand _ _ ih | unconditional _ ih => exact ih others ahead
  | sign s operand ih => exact operand.neighbours_cons trivial s.symbolic_symbol (ih others ahead)
  | rightward op _ _ left again ih ih' =>
    have right := again.neighbours_cons trivial op.symbolic_symbol (ih' others ahead)
    rw [List.append_assoc]
    exact ih right (by simp [op.symbolic_symbol])
  | leftward _ _ joined ih ih' =>
    rw [List.append_assoc]
    exact ih (ih' others ahead) (joined.joined_symbolic ahead)
  | conditional condition yes no ih ih' ih'' =>
    have hno := no.neighbours_cons (a := .colon) trivial rfl (ih'' others ahead)
    have hyes := yes.neighbours_cons (a := .question) trivial rfl
      (ih' hno (by simp [Token.symbolic]))
    simpa using ih hyes (by simp [Token.symbolic])
  | joinedNone | furtherNone => exact others
  | joinedMore op _ operand joined ih ih' =>
    have hoperand := ih (ih' others ahead) (joined.joined_symbolic ahead)
    rw [List.cons_append, List.append_assoc]
    exact operand.neighbours_cons (Phrase.solid_operand _) op.symbolic_symbol hoperand
  | arguments _ further ih ih' =>
    rw [List.append_assoc]
    exact ih (ih' others ahead) (further.further_symbolic ahead)
  | furtherMore _ ih => exact Token.Divides.comma.chain (ih others ahead)

end Derives

theorem Sentence.neighbours (h : Sentence ts t) : ts.IsChain Token.Neighbours := by
  simpa using Derives.neighbours h .nil (by simp)

/-- The tokens of a sentence need no blanks between them. -/
theorem Sentence.meets (h : Sentence ts t) : ts.IsChain Token.Meets :=
  h.neighbours.imp fun _ _ => Token.Neighbours.meets

namespace Spaced

variable {ts : List Token} {t : Token} {word rest text : List Char}

theorem head (h : Spaced text ts) (hc : c ∈ text.head?) :
    Text.isBlank c = true ∨ ∃ word t us, ts = t :: us ∧ Lexeme (c :: word) t := by
  cases h with
  | finish blank => exact .inl (blank c (List.mem_of_mem_head? hc))
  | @word blanks word t rest ts blank spells others =>
    cases blanks with
    | nil =>
      obtain ⟨d, ds, rfl⟩ := List.exists_cons_of_ne_nil (Reading.lexeme_ne_nil spells)
      cases hc
      exact .inr ⟨ds, t, ts, rfl, spells⟩
    | cons d blanks =>
      cases hc
      exact .inl (blank c (List.mem_cons_self ..))

/-- A word is read in front of others if it needs no blank behind it. -/
theorem read (spells : Lexeme word t) (others : Spaced rest ts)
    (chain : (t :: ts).IsChain Token.Meets) :
    Reading.ofText (word ++ rest) = .token t word.length := by
  cases rest with
  | nil =>
    rw [List.append_nil]
    exact Reading.ofText_end spells
  | cons c rest =>
    obtain blank | ⟨word', t', us, rfl, spells'⟩ := others.head (c := c) rfl
    · exact Reading.ofText_apart spells (apart_of_isBlank blank) rest
    · exact (List.isChain_cons_cons.mp chain).1 word c word' spells spells' rest

theorem layout (h : Spaced text ts) (chain : ts.IsChain Token.Meets) : Layout text ts := by
  induction h with
  | finish blank => exact .finish blank
  | word blank spells others ih =>
    exact .word blank (read spells others chain) (Reading.lexeme_ne_finish spells)
      (ih chain.tail)

theorem blank (blank : Text.isBlank c = true) (others : Spaced text ts) :
    Spaced (c :: text) ts := by
  cases others with
  | finish h => exact .finish (List.forall_mem_cons.mpr ⟨blank, h⟩)
  | word h spells others => exact .word (List.forall_mem_cons.mpr ⟨blank, h⟩) spells others

theorem single (spells : Lexeme [c] t) (others : Spaced text ts) :
    Spaced (c :: text) (t :: ts) :=
  @Spaced.word [] [c] t text ts blank_nil spells others

end Spaced

end Formula
