import Formula.Proofs.Erasure
import Formula.Proofs.LexicalGrammar

namespace Formula

/-- An expression apart from how it is written. Numbers and names are spelled as tokens are. -/
inductive Term where
  | number (text : String) (spelled : IsNumber text)
  | identifier (name : String) (spelled : IsName name)
  | call (name : String) (spelled : IsName name) (arguments : List Term)
  | sign (s : Sign) (operand : Term)
  | operator (op : Operator) (left right : Term)
  | conditional (condition yes no : Term)

namespace Term

/-- What holds of a term if it holds of its operands and arguments holds of all terms. -/
@[induction_eliminator]
theorem induction {motive : Term → Prop}
    (number : ∀ text spelled, motive (.number text spelled))
    (identifier : ∀ name spelled, motive (.identifier name spelled))
    (call : ∀ name spelled arguments, (∀ t ∈ arguments, motive t) →
      motive (.call name spelled arguments))
    (sign : ∀ s operand, motive operand → motive (.sign s operand))
    (operator : ∀ op left right, motive left → motive right → motive (.operator op left right))
    (conditional : ∀ condition yes no, motive condition → motive yes → motive no →
      motive (.conditional condition yes no)) : ∀ t, motive t :=
  Term.rec number identifier call sign operator conditional (by simp)
    (fun _ _ first others => List.forall_mem_cons.mpr ⟨first, others⟩)

mutual

/-- The tree of a term, without any brackets. -/
def tree : Term → Node
  | number text _ => .leaf .number text
  | identifier name _ => .leaf .identifier name
  | call name _ arguments => callTree name (trees arguments)
  | sign s operand => .operator (.sign s) [operand.tree]
  | operator op left right => .operator (.operator op) [left.tree, right.tree]
  | conditional condition yes no =>
    .operator .conditional [condition.tree, yes.tree, no.tree]

def trees : List Term → List Node
  | [] => []
  | t :: ts => t.tree :: trees ts

end

theorem trees_eq_map (ts : List Term) : trees ts = ts.map tree := by
  induction ts with
  | nil => rfl
  | cons t ts ih => rw [trees, ih, List.map_cons]

end Term

mutual

/-- The ways to write a term as tokens with each operand and each argument in brackets. -/
inductive Written : Term → List Token → Prop where
  | number : Written (.number text spelled) [.number text]
  | identifier : Written (.identifier name spelled) [.identifier name]
  | call (arguments : List.Forall₂ Enclosed terms tss) :
      Written (.call name spelled terms) (callTokens name tss)
  | sign (operand : Enclosed t ts) : Written (.sign s t) (s.symbol :: ts)
  | operator (left : Enclosed t ts) (right : Enclosed u us) :
      Written (.operator op t u) (ts ++ op.symbol :: us)
  | conditional (condition : Enclosed c cs) (yes : Enclosed y ys) (no : Enclosed n ns) :
      Written (.conditional c y n) (cs ++ .question :: (ys ++ .colon :: ns))

/-- The ways to write a term in brackets of any style. -/
inductive Enclosed : Term → List Token → Prop where
  | brackets (b : Bracket) (inner : Written t ts) : Enclosed t (b.opening :: (ts ++ [b.closing]))

end

variable {term : Term} {ts : List Token}

theorem Enclosed.derives (h : Enclosed term ts)
    (inside : ∀ us, Written term us → ∃ t, Sentence us t ∧ t.without [.group] = term.tree) :
    ∃ t, (∀ next, Derives .atom ts next t) ∧ t.without [.group] = term.tree := by
  cases h with
  | brackets b inner =>
    obtain ⟨t, hs, ht⟩ := inside _ inner
    refine ⟨.operator .group [t], ?_, ?_⟩
    · intro next
      exact .group b (hs.behind b.closing_ne_leftParen)
    · rw [← ht]
      exact Node.without_erased (by simp) "" t

/-- The arguments of a call, each in brackets, are sentences. -/
theorem enclosed_sentences {terms : List Term} {tss : List (List Token)}
    (h : List.Forall₂ Enclosed terms tss)
    (inside : ∀ term ∈ terms, ∀ us, Written term us →
      ∃ t, Sentence us t ∧ t.without [.group] = term.tree) :
    ∃ ts, List.Forall₂ Sentence tss ts ∧ ts.map (Node.without [.group]) = terms.map Term.tree := by
  induction h with
  | nil => exact ⟨[], .nil, rfl⟩
  | cons first others ih =>
    obtain ⟨hfirst, hothers⟩ := List.forall_mem_cons.mp inside
    obtain ⟨t, ha, ht⟩ := first.derives hfirst
    obtain ⟨ts, hs, hts⟩ := ih hothers
    refine ⟨t :: ts, .cons ((ha _).of_atom trivial) hs, ?_⟩
    rw [List.map_cons, List.map_cons, ht, hts]

/-- What is written is a sentence, and its tree is the term where it is rid of the brackets. -/
theorem Written.sentence (h : Written term ts) :
    ∃ t, Sentence ts t ∧ t.without [.group] = term.tree := by
  induction term generalizing ts with
  | number text spelled =>
    cases h
    exact ⟨.leaf .number text, Derives.number.of_atom trivial, rfl⟩
  | identifier name spelled =>
    cases h
    have hatom : Derives .atom [.identifier name] .finish (.leaf .identifier name) :=
      .identifier (by simp)
    exact ⟨_, hatom.of_atom trivial, rfl⟩
  | call name spelled arguments ih =>
    cases h with
    | call enclosed =>
      obtain ⟨ts, hs, hts⟩ := enclosed_sentences enclosed fun t ht _ => ih t ht
      refine ⟨callTree name ts, sentence_callTokens hs, ?_⟩
      rw [Node.without_callTree (by simp) (by simp), hts, Term.tree, Term.trees_eq_map]
  | sign s operand ih =>
    cases h with
    | sign enclosed =>
      obtain ⟨t, ha, ht⟩ := enclosed.derives fun _ => ih
      refine ⟨.operator (.sign s) [t], (Derives.sign s (.unsigned (ha _))).of_signed, ?_⟩
      rw [Term.tree, ← ht]
      exact Node.without_kept (by simp) "" [t]
  | operator op left right ih ih' =>
    cases h with
    | operator first second =>
      obtain ⟨t, ha, ht⟩ := first.derives fun _ => ih
      obtain ⟨u, hb, hu⟩ := second.derives fun _ => ih'
      refine ⟨.operator (.operator op) [t, u], (Derives.joining ha hb).of_binary, ?_⟩
      rw [Term.tree, ← ht, ← hu]
      exact Node.without_kept (by simp) "" [t, u]
  | conditional condition yes no ih ih' ih'' =>
    cases h with
    | conditional first second third =>
      obtain ⟨c, hc, hct⟩ := first.derives fun _ => ih
      obtain ⟨y, hy, hyt⟩ := second.derives fun _ => ih'
      obtain ⟨n, hn, hnt⟩ := third.derives fun _ => ih''
      refine ⟨.operator .conditional [c, y, n], ?_, ?_⟩
      · exact .conditional ((hc _).of_atom trivial) ((hy _).of_atom trivial)
          ((hn _).of_atom trivial)
      · rw [Term.tree, ← hct, ← hyt, ← hnt]
        exact Node.without_kept (by simp) "" [c, y, n]

end Formula
