import Formula.Proofs.NameLists
import Formula.Proofs.NestingLimit

namespace Formula

/-- What a name is the name of: a call where a parenthesis opens behind it, and else a variable. -/
def nameKind (called : Bool) : Kind :=
  if called then .call else .identifier

@[simp]
theorem call_eq_nameKind : Kind.call = nameKind called ↔ called = true := by
  cases called <;> simp [nameKind]

@[simp]
theorem identifier_eq_nameKind : Kind.identifier = nameKind called ↔ called = false := by
  cases called <;> simp [nameKind]

theorem nameKind_ne {k : Kind} (call : k ≠ .call) (identifier : k ≠ .identifier) :
    k ≠ nameKind called := by
  cases called with
  | false => exact identifier
  | true => exact call

/-- A variable or a call of a name is somewhere in a tree. -/
def Node.Mentions (called : Bool) (name : String) (root : Node) : Prop :=
  ∃ n, Within n root ∧ n.kind = nameKind called ∧ n.text = name

/-- A name is among some tokens, with a parenthesis that opens behind it or without one. One more
token stands behind them all. -/
def Occurs (called : Bool) (name : String) (ts : List Token) (next : Token) : Prop :=
  ∃ i, ts[i]? = some (.identifier name) ∧ (ts[i + 1]?.getD next = .leftParen ↔ called)

/-- The same of what a phrase holds already. -/
def Phrase.Mentions (called : Bool) (name : String) : Phrase → Prop
  | .joined _ left => left.Mentions called name
  | .further first => first.Mentions called name
  | _ => False

section

variable {called : Bool} {name : String}

namespace Node

theorem mentions_mk {operands : List Node} : Mentions called name ⟨k, word, operands⟩ ↔
    (k = nameKind called ∧ word = name) ∨ ∃ t ∈ operands, t.Mentions called name := by
  constructor
  · rintro ⟨n, inside, kind, text⟩
    obtain rfl | ⟨t, ht, inside⟩ := (within_iff _).mp inside
    · exact .inl ⟨kind, text⟩
    · exact .inr ⟨t, ht, n, inside, kind, text⟩
  · rintro (⟨kind, text⟩ | ⟨t, ht, n, inside, kind, text⟩)
    · exact ⟨_, .here, kind, text⟩
    · exact ⟨n, .under ht inside, kind, text⟩

@[simp]
theorem mentions_leaf :
    (leaf k word).Mentions called name ↔ k = nameKind called ∧ word = name := by
  simp [leaf, mentions_mk]

/-- What is neither a variable nor a call mentions what its operands mention. -/
theorem mentions_operator {operands : List Node} (call : k ≠ .call) (identifier : k ≠ .identifier) :
    (operator k operands).Mentions called name ↔ ∃ t ∈ operands, t.Mentions called name := by
  simp [operator, mentions_mk, nameKind_ne call identifier]

theorem mem_namesOf_iff {root : Node} :
    name ∈ root.namesOf (nameKind called) ↔ ∃ word, root.Mentions called word ∧
      Text.lower word = name := by
  rw [mem_namesOf]
  constructor
  · rintro ⟨n, inside, kind, text⟩
    exact ⟨n.text, ⟨n, inside, kind, rfl⟩, text⟩
  · rintro ⟨_, ⟨n, inside, kind, rfl⟩, text⟩
    exact ⟨n, inside, kind, text⟩

end Node

section

variable {ts us : List Token} {next : Token}

@[simp]
theorem not_occurs_nil : ¬ Occurs called name [] next := by
  simp [Occurs]

@[simp]
theorem occurs_cons : Occurs called name (t :: ts) next ↔
    (t = .identifier name ∧ (ts.headD next = .leftParen ↔ called)) ∨
      Occurs called name ts next := by
  constructor
  · rintro ⟨- | i, found, behind⟩
    · refine .inl ⟨by simpa using found, ?_⟩
      cases ts <;> simpa using behind
    · exact .inr ⟨i, by simpa using found, by simpa using behind⟩
  · rintro (⟨rfl, behind⟩ | ⟨i, found, behind⟩)
    · refine ⟨0, rfl, ?_⟩
      cases ts <;> simpa using behind
    · exact ⟨i + 1, by simpa using found, by simpa using behind⟩

/-- Behind the first of two rows of tokens stands the first token of the second one. -/
@[simp]
theorem occurs_append : Occurs called name (ts ++ us) next ↔
    Occurs called name ts (us.headD next) ∨ Occurs called name us next := by
  induction ts with
  | nil => simp
  | cons t ts ih =>
    have ahead : (ts ++ us).headD next = ts.headD (us.headD next) := by cases ts <;> rfl
    rw [List.cons_append, occurs_cons, occurs_cons, ih, ahead, or_assoc]

end

theorem Phrase.mentions_operand (r : Rank) : r.operand.Mentions called name ↔ False := by
  cases r <;> exact Iff.rfl

/-- The names that a tree mentions are those among its tokens. -/
theorem Derives.mentions_iff (h : Derives φ ts next t) :
    t.Mentions called name ↔ φ.Mentions called name ∨ Occurs called name ts next := by
  induction h with
  | number => simp [nameKind_ne, Phrase.Mentions]
  | identifier open? => simp [open?, Phrase.Mentions, and_comm]
  | emptyCall => simp [Phrase.Mentions, and_comm]
  | call _ ih => simp [Node.mentions_mk, ih, Phrase.Mentions, and_comm]
  | group b _ ih =>
    simp [Node.mentions_operator, ih, Phrase.Mentions, b.opening_ne_identifier,
      b.closing_ne_identifier]
  | unsigned _ ih => exact ih
  | sign s _ ih => simp [Node.mentions_operator, ih, Phrase.Mentions, s.symbol_ne_identifier]
  | operand _ _ ih =>
    rw [Phrase.mentions_operand] at ih
    exact ih
  | rightward op _ _ _ _ ih ih' =>
    rw [Phrase.mentions_operand] at ih
    simp [Node.mentions_operator, ih, ih', Phrase.Mentions, op.symbol_ne_identifier]
  | leftward _ _ _ ih ih' =>
    rw [Phrase.mentions_operand] at ih
    simp [ih', ih, Phrase.Mentions]
  | unconditional _ ih => exact ih
  | conditional _ _ _ ih ih' ih'' =>
    simp [Node.mentions_operator, ih, ih', ih'', Phrase.Mentions]
  | joinedNone | furtherNone => simp [Phrase.Mentions]
  | joinedMore op _ _ _ ih ih' =>
    rw [Phrase.mentions_operand] at ih
    simp [Node.mentions_operator, ih, ih', Phrase.Mentions, op.symbol_ne_identifier, or_assoc]
  | arguments _ _ ih ih' => simp [ih, ih', Phrase.Mentions]
  | furtherMore _ ih => simp [Node.mentions_operator, ih, Phrase.Mentions]

/-- The end of a text is no name, and no parenthesis. -/
theorem occurs_finish {tokens : List Token} : Occurs called name tokens .finish ↔
    ∃ i, tokens[i]? = some (.identifier name) ∧ (tokens[i + 1]? = some .leftParen ↔ called) := by
  have behind (i : Nat) : tokens[i]?.getD .finish = .leftParen ↔ tokens[i]? = some .leftParen := by
    cases tokens[i]? <;> simp
  simp only [Occurs, behind]

theorem mem_namesOf_sentence (called : Bool) (h : Sentence ts t) :
    name ∈ t.namesOf (nameKind called) ↔
    ∃ i word, (ts ++ [.finish])[i]? = some (.identifier word) ∧
      ((ts ++ [.finish])[i + 1]? = some .leftParen ↔ called) ∧ Text.lower word = name := by
  have whole (word : String) : t.Mentions called word ↔
      Occurs called word (ts ++ [.finish]) .finish := by
    simp [h.mentions_iff, Phrase.Mentions]
  simp only [Node.mem_namesOf_iff, whole, occurs_finish]
  constructor
  · rintro ⟨word, ⟨i, found, behind⟩, lower⟩
    exact ⟨i, word, found, behind, lower⟩
  · rintro ⟨i, word, found, behind, lower⟩
    exact ⟨word, ⟨i, found, behind⟩, lower⟩

end

namespace Builder

/-- The functions of an expression are the names in its text that a parenthesis opens behind, and
its variables are the others, whether or not they are ever evaluated. -/
theorem parse_names (builder : Builder V F) (source : String) (expression : Expression V F)
    (parsed : builder.parse source = .ok expression) :
    ∃ tokens after, Lexer.tokens (.ofText source) = .ok tokens after ∧ ∀ name,
      (name ∈ expression.functionNames ↔ ∃ i word, tokens[i]? = some (.identifier word) ∧
        tokens[i + 1]? = some .leftParen ∧ Text.lower word = name) ∧
      (name ∈ expression.variableNames ↔ ∃ i word, tokens[i]? = some (.identifier word) ∧
        tokens[i + 1]? ≠ some .leftParen ∧ Text.lower word = name) := by
  obtain ⟨ts, after, tokens, hs, -⟩ := parse_ok_iff_tokens.mp parsed
  refine ⟨_, after, tokens, fun name => ⟨?_, ?_⟩⟩
  · rw [Expression.functionNames, call_eq_nameKind.mpr rfl, mem_namesOf_sentence true hs]
    simp
  · rw [Expression.variableNames, identifier_eq_nameKind.mpr rfl, mem_namesOf_sentence false hs]
    simp

set_option maxRecDepth 1024 in
/-- Nothing is evaluated behind a zero, but the names there are listed. -/
theorem parse_names_skipped :
    ∃ expression : Expression Empty Empty, empty.parse "0*F(x)*f" = .ok expression ∧
      "f" ∈ expression.functionNames ∧ "f" ∈ expression.variableNames ∧
      "x" ∈ expression.variableNames := by
  have parsed : (empty : Builder Empty Empty).parse "0*F(x)*f" = .ok ⟨.operator
      (.operator .multiply) [.operator (.operator .multiply) [.leaf .number "0",
        ⟨.call, "F", [.leaf .identifier "x"]⟩], .leaf .identifier "f"], empty.context⟩ := by cbv
  obtain ⟨tokens, after, read, listed⟩ := parse_names _ _ _ parsed
  obtain ⟨last, row⟩ : ∃ last, Lexer.tokens (.ofText "0*F(x)*f") = .ok [.number "0", .star,
      .identifier "F", .leftParen, .identifier "x", .rightParen, .star, .identifier "f",
      .finish] last := ⟨_, by cbv⟩
  rw [row] at read
  cases read
  have lower : Text.lower "F" = "f" ∧ Text.lower "f" = "f" ∧ Text.lower "x" = "x" := by
    refine ⟨?_, ?_, ?_⟩ <;> cbv
  exact ⟨_, parsed, (listed "f").1.mpr ⟨2, "F", rfl, rfl, lower.1⟩,
    (listed "f").2.mpr ⟨7, "f", rfl, by simp, lower.2.1⟩,
    (listed "x").2.mpr ⟨4, "x", rfl, by simp, lower.2.2⟩⟩

end Builder
end Formula
