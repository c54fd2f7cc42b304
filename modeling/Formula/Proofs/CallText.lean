import Formula.Proofs.ArgumentRows
import Formula.Proofs.Layouts
import Formula.Proofs.WellFormed
import Mathlib

namespace Formula

/-- The text of a call, made of the name of the function and the texts of its arguments. -/
def callText (name : String) (sources : List String) : String :=
  name ++ "(" ++ ",".intercalate sources ++ ")"

/-- A text is made of some tokens. -/
def Spells (source : String) (ts : List Token) : Prop :=
  ∃ last after, Lexer.Reads (.ofText source) ts last ∧ Lexer.next last = .ok .finish after

/-- The tokens of further arguments, each behind a comma. -/
def furtherTokens (tss : List (List Token)) : List Token :=
  tss.flatMap (.comma :: ·)

theorem Spells.layout (h : Spells source ts) : Layout source.toList ts := by
  obtain ⟨last, after, hr, hn⟩ := h
  exact Lexer.layout_of_reads hr hn

theorem spells_of_layout {source : String} (h : Layout source.toList ts) : Spells source ts :=
  Lexer.reads_of_layout h rfl

/-- The arguments of a call stand one behind the other, with commas between them. -/
theorem layout_row {source : String} {sources : List String} {ts : List Token}
    {tss : List (List Token)} (h : List.Forall₂ Spells (source :: sources) (ts :: tss)) :
    Layout ([','].intercalate ((source :: sources).map String.toList) ++ [')'])
      (ts ++ furtherTokens tss ++ [.rightParen]) := by
  induction sources generalizing source ts tss with
  | nil =>
    obtain ⟨first, hnil⟩ := List.forall₂_cons.mp h
    cases hnil
    have hclosed := first.layout.append (Bracket.lexeme_closing .round) (apart_closing .round)
      (.finish blank_nil)
    simpa [furtherTokens, Bracket.closingChar, Bracket.closing] using hclosed
  | cons source' sources ih =>
    cases tss with
    | nil => cases (List.forall₂_cons.mp h).2
    | cons ts' tss =>
      obtain ⟨first, others⟩ := List.forall₂_cons.mp h
      have hrow := first.layout.append lexeme_comma apart_comma (ih others)
      simpa [List.intercalate_cons_cons, furtherTokens] using hrow

theorem furtherTokens_ahead (tss : List (List Token)) :
    (furtherTokens tss).headD .rightParen ≠ .leftParen := by
  cases tss <;> simp [furtherTokens]

/-- Sentences with commas between them form the arguments of a call. -/
theorem derives_row {tss : List (List Token)} {trees : List Node} (first : Sentence ts t)
    (others : List.Forall₂ Sentence tss trees) :
    Derives .arguments (ts ++ furtherTokens tss) .rightParen (Node.argumentRow t trees) := by
  induction others generalizing ts t with
  | nil => exact .arguments (first.behind (furtherTokens_ahead [])) .furtherNone
  | @cons us u uss trees second _ ih =>
    refine .arguments (first.behind (furtherTokens_ahead (us :: uss))) ?_
    exact .furtherMore (ih second)

/-- The tokens of the text of a call. -/
def callTokens (name : String) : List (List Token) → List Token
  | [] => [.identifier name, .leftParen, .rightParen]
  | ts :: tss => .identifier name :: .leftParen :: (ts ++ furtherTokens tss ++ [.rightParen])

/-- The tree of a call. -/
def callTree (name : String) : List Node → Node
  | [] => .leaf .call name
  | t :: ts => ⟨.call, name, [.argumentRow t ts]⟩

theorem spells_callText {tss : List (List Token)} (named : IsName name)
    (h : List.Forall₂ Spells sources tss) :
    Spells (callText name sources) (callTokens name tss) := by
  have htext : (callText name sources).toList =
      name.toList ++ '(' :: ([','].intercalate (sources.map String.toList) ++ [')']) := by
    simp [callText, String.toList_intercalate]
  have hname : Layout name.toList [.identifier name] := .single (.name named)
  apply spells_of_layout
  rw [htext]
  cases h with
  | nil =>
    have hclosing : Layout [')'] [.rightParen] := .single (Bracket.lexeme_closing .round)
    exact hname.append (Bracket.lexeme_opening .round) (apart_opening .round) hclosing
  | cons first others =>
    have hrow := layout_row (.cons first others)
    exact hname.append (Bracket.lexeme_opening .round) (apart_opening .round) hrow

theorem sentence_callTokens {tss : List (List Token)} {ts : List Node}
    (h : List.Forall₂ Sentence tss ts) : Sentence (callTokens name tss) (callTree name ts) := by
  cases h with
  | nil => exact Derives.emptyCall.of_atom trivial
  | cons first others => exact (Derives.call (derives_row first others)).of_atom trivial

namespace Node

section

variable (host : Host V F σ) (context : Context V F)

/-- Trees evaluated one after the other, each once, come to a list of values. Each starts from the
state that the one before it leaves behind. -/
inductive Yields : List Node → σ → List Value → σ → Prop where
  | nil : Yields [] s [] s
  | cons (first : eval host context t s = .ok v s₁) (others : Yields ts s₁ vs s₂) :
      Yields (t :: ts) s (v :: vs) s₂

end

variable {host : Host V F σ} {context : Context V F}

theorem Yields.length (h : Yields host context ts s vs s') : vs.length = ts.length := by
  induction h with
  | nil => rfl
  | cons _ _ ih => simp [ih]

/-- Either all trees come to values, or there is a first one that fails. -/
theorem evalAll_outcome (ts : List Node) (s : σ) :
    (∃ vs s', Yields host context ts s vs s' ∧ evalAll host context ts s = .ok vs s') ∨
      ∃ before t after vs s' e s'', ts = before ++ t :: after ∧
        Yields host context before s vs s' ∧ eval host context t s' = .error e s'' ∧
        evalAll host context ts s = .error e s'' := by
  induction ts generalizing s with
  | nil => exact .inl ⟨[], s, .nil, by rw [evalAll]; rfl⟩
  | cons t ts ih =>
    cases ht : eval host context t s with
    | error e s' =>
      refine .inr ⟨[], t, ts, [], s, e, s', rfl, .nil, ht, ?_⟩
      simp [evalAll_cons, bind, EStateM.bind, ht]
    | ok v s₁ =>
      rcases ih s₁ with ⟨vs, s', hy, hall⟩ | ⟨before, u, after, vs, s', e, s'', rfl, hy, hu, hall⟩
      · refine .inl ⟨v :: vs, s', .cons ht hy, ?_⟩
        simp [evalAll_cons, bind, EStateM.bind, pure, EStateM.pure, ht, hall]
      · refine .inr ⟨t :: before, u, after, v :: vs, s', e, s'', rfl, .cons ht hy, hu, ?_⟩
        simp [evalAll_cons, bind, EStateM.bind, ht, hall]

theorem eval_callTree (host : Host V F σ) (context : Context V F) {ts : List Node}
    (h : ∀ t ∈ ts, t.isPair = false) : eval host context (callTree name ts) =
      (do context.call host name (← evalAll host context ts)) := by
  cases ts with
  | nil => rw [callTree, leaf, eval, arguments_nil]
  | cons t ts => rw [callTree, eval, arguments_argumentRow t ts h]

end Node

namespace Builder

/-- A text that is an expression under some limit has a tree, and the tree is no list of
arguments. -/
theorem sentence_of_accepted {builder : Builder V F}
    (h : ∃ limit expression, { builder with limit }.parse source = .ok expression ∧
      expression.root = t) : (∃ ts, Spells source ts ∧ Sentence ts t) ∧ t.isPair = false := by
  obtain ⟨limit, expression, hp, rfl⟩ := h
  obtain ⟨ts, last, after, hr, hn, hs, -⟩ := sentence_of_parse hp
  exact ⟨⟨ts, ⟨last, after, hr, hn⟩, hs⟩, Node.isPair_of_kind (parse_wellFormed hp).single⟩

theorem sentences_of_accepted {builder : Builder V F} {sources : List String} {ts : List Node}
    (h : List.Forall₂ (fun source t => ∃ limit expression,
      { builder with limit }.parse source = .ok expression ∧ expression.root = t) sources ts) :
    (∃ tss, List.Forall₂ Spells sources tss ∧ List.Forall₂ Sentence tss ts) ∧
      ∀ t ∈ ts, t.isPair = false := by
  induction h with
  | nil => exact ⟨⟨[], .nil, .nil⟩, by simp⟩
  | cons first _ ih =>
    obtain ⟨⟨us, hspells, hsentence⟩, hpair⟩ := sentence_of_accepted first
    obtain ⟨⟨tss, hall, hall'⟩, hpairs⟩ := ih
    exact ⟨⟨us :: tss, .cons hspells hall, .cons hsentence hall'⟩,
      List.forall_mem_cons.mpr ⟨hpair, hpairs⟩⟩

/-- The text of a call is one expression where there is room for it, and its evaluation is that of
the arguments from left to right, each once, followed by one call of the function with all their
values. The first argument that fails ends it, whether or not the function is bound. -/
theorem call_text (builder : Builder V F) (name : String) (sources : List String)
    (arguments : List Node) (named : IsName name)
    (accepted : List.Forall₂ (fun source t => ∃ limit expression,
      { builder with limit }.parse source = .ok expression ∧ expression.root = t)
      sources arguments) :
    ∃ call : Node,
      (∃ enough, ∀ limit, enough ≤ limit →
        { builder with limit }.parse (callText name sources) = .ok ⟨call, builder.context⟩) ∧
      (∀ limit expression, { builder with limit }.parse (callText name sources) = .ok expression →
        expression = ⟨call, builder.context⟩) ∧
      ∀ (σ : Type) (host : Host V F σ) (context : Context V F) (s : σ),
        (∃ values s', Node.Yields host context arguments s values s' ∧
          values.length = sources.length ∧
          (∀ handle, context.getFunction? name = some handle →
            call.eval host context s = host.callFunction handle context values s') ∧
          (context.getFunction? name = none →
            call.eval host context s = .error (.undefinedFunction name) s')) ∨
        ∃ before t after values s' e s'', arguments = before ++ t :: after ∧
          Node.Yields host context before s values s' ∧ t.eval host context s' = .error e s'' ∧
          call.eval host context s = .error e s'' := by
  obtain ⟨⟨tss, hspells, hsentences⟩, hpairs⟩ := sentences_of_accepted accepted
  obtain ⟨last, after, hr, hn⟩ := spells_callText named hspells
  have hsentence : Sentence (callTokens name tss) (callTree name arguments) :=
    sentence_callTokens hsentences
  refine ⟨callTree name arguments, ⟨(callTree name arguments).nesting + 1, ?_⟩, ?_, ?_⟩
  · intro limit hlimit
    rcases parse_of_sentence { builder with limit } hr hn hsentence with ⟨hp, -⟩ | ⟨-, hdeep⟩
    · exact hp
    · exact absurd hlimit (Nat.not_le.mpr (Nat.lt_succ_of_le hdeep))
  · intro limit expression hp
    rcases parse_of_sentence { builder with limit } hr hn hsentence with ⟨hp', -⟩ | ⟨⟨e, he, -⟩, -⟩
    · rw [hp] at hp'
      cases hp'
      rfl
    · rw [hp] at he
      cases he
  · intro σ host context s
    rw [Node.eval_callTree host context hpairs]
    rcases Node.evalAll_outcome arguments s with
      ⟨vs, s', hy, hall⟩ | ⟨before, t, after, vs, s', e, s'', hsplit, hy, ht, hall⟩
    · refine .inl ⟨vs, s', hy, hy.length.trans accepted.length_eq.symm, ?_, ?_⟩
      · intro handle hbound
        simp [bind, EStateM.bind, hall, Context.call, hbound]
      · intro hunbound
        simp [bind, EStateM.bind, hall, Context.call, hunbound, throw, throwThe,
          MonadExceptOf.throw, EStateM.throw]
    · refine .inr ⟨before, t, after, vs, s', e, s'', hsplit, hy, ht, ?_⟩
      simp [bind, EStateM.bind, hall]

/-- Handles that count how often they are run. -/
def counting : Host Unit Unit Nat where
  readVariable _ _ := fun runs => .ok (.boolean true) (runs + 1)
  callFunction _ _ _ := fun runs => .ok (.boolean true) (runs + 1)

/-- The arguments are read although the function is not bound. -/
theorem call_text_unbound : ∃ call : Node,
    (∃ limit, ({ limit } : Builder Unit Unit).parse "f(x,[x])" = .ok ⟨call, empty.context⟩) ∧
    call.eval counting (empty.context.change (.setVariable "x" ())) 0 =
      .error (.undefinedFunction "f") 2 := by
  have named : IsName "f" := ⟨'f', [], rfl, by decide, by simp⟩
  obtain ⟨call, ⟨enough, hp⟩, -, heval⟩ := call_text (.empty : Builder Unit Unit) "f" ["x", "[x]"]
    [.leaf .identifier "x", .operator .group [.leaf .identifier "x"]] named
    (.cons ⟨1, ⟨_, empty.context⟩, by cbv, rfl⟩ (.cons ⟨2, ⟨_, empty.context⟩, by cbv, rfl⟩ .nil))
  refine ⟨call, ⟨enough, hp enough (Nat.le_refl _)⟩, ?_⟩
  have hread : ∀ runs, (Node.leaf .identifier "x").eval counting
      (empty.context.change (.setVariable "x" ())) runs = .ok (.boolean true) (runs + 1) := by
    intro runs
    cbv
  have hgroup : ∀ runs, (Node.operator .group [.leaf .identifier "x"]).eval counting
      (empty.context.change (.setVariable "x" ())) runs = .ok (.boolean true) (runs + 1) := by
    intro runs
    cbv
  rcases heval Nat counting (empty.context.change (.setVariable "x" ())) 0 with
    ⟨vs, runs, hy, -, -, hunbound⟩ | ⟨before, t, after, vs, runs, e, runs', hsplit, -, hfail, -⟩
  · cases hy with
    | cons first others =>
      cases (hread 0).symm.trans first
      cases others with
      | cons second others =>
        cases (hgroup 1).symm.trans second
        cases others
        exact hunbound (by cbv)
  · have ht : t ∈ [Node.leaf .identifier "x", .operator .group [.leaf .identifier "x"]] := by
      rw [hsplit]
      simp
    simp only [List.mem_cons, List.not_mem_nil, or_false] at ht
    rcases ht with rfl | rfl
    · rw [hread] at hfail
      cases hfail
    · rw [hgroup] at hfail
      cases hfail

end Builder
end Formula
