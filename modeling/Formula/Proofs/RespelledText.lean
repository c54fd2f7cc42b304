import Formula.Proofs.Comparison
import Formula.Proofs.EvaluationOrder
import Formula.Proofs.NestingLimit
import Formula.Proofs.Respelling

namespace Formula

/-- The same value, or errors that are related, and the same state behind it. -/
inductive Agreeing (errors : EvalError → EvalError → Prop) :
    EStateM.Result EvalError σ α → EStateM.Result EvalError σ α → Prop where
  | ok (a : α) (s : σ) : Agreeing errors (.ok a s) (.ok a s)
  | error (related : errors e e') (s : σ) : Agreeing errors (.error e s) (.error e' s)

theorem Agreeing.same {errors : EvalError → EvalError → Prop} (refl : ∀ e, errors e e)
    (result : EStateM.Result EvalError σ α) : Agreeing errors result result := by
  cases result with
  | ok a s => exact .ok a s
  | error e s => exact .error (refl e) s

/-- Computations that agree in every state. -/
def Comparison.agreement (errors : EvalError → EvalError → Prop) (refl : ∀ e, errors e e) :
    Comparison σ σ where
  Holds x y := ∀ s, Agreeing errors (x s) (y s)
  of_pure a s := .ok a s
  of_throw e s := .error (refl e) s
  of_bind {α β x y f g} first rest := by
    intro s
    have both := first s
    simp only [bind, EStateM.bind]
    generalize x s = result, y s = result' at both
    cases both with
    | ok a s' => exact rest a s'
    | error related s' => exact .error related s'

/-- The same error, or one about a name that is not bound in a context. It names a node at the same
place of two trees as either tree spells it. -/
inductive EvalError.Respelled (context : Context V F) (root root' : Node) :
    EvalError → EvalError → Prop where
  | same (e : EvalError) : Respelled context root root' e e
  | unboundVariable (stands : root.at? place = some ⟨.identifier, n, []⟩)
      (stands' : root'.at? place = some ⟨.identifier, m, []⟩)
      (folded : Text.lower n = Text.lower m) (unbound : context.getVariable? n = none) :
      Respelled context root root' (.undefinedVariable n) (.undefinedVariable m)
  | unboundFunction (stands : root.at? place = some ⟨.call, n, ts⟩)
      (stands' : root'.at? place = some ⟨.call, m, us⟩)
      (folded : Text.lower n = Text.lower m) (unbound : context.getFunction? n = none) :
      Respelled context root root' (.undefinedFunction n) (.undefinedFunction m)

theorem EvalError.Respelled.atBoundary {context : Context V F}
    (h : EvalError.Respelled context root root' e e') :
    EvalError.Respelled context root root' e.atBoundary e'.atBoundary := by
  cases h with
  | same e => exact .same _
  | unboundVariable stands stands' folded unbound =>
    exact .unboundVariable stands stands' folded unbound
  | unboundFunction stands stands' folded unbound =>
    exact .unboundFunction stands stands' folded unbound

namespace Context

variable {host : Host V F σ} {context : Context V F}

theorem getVariable?_folded (folded : Text.lower n = Text.lower m) :
    context.getVariable? n = context.getVariable? m := by
  simp only [getVariable?, Bindings.getVariable?, folded]

theorem getFunction?_folded (folded : Text.lower n = Text.lower m) :
    context.getFunction? n = context.getFunction? m := by
  simp only [getFunction?, Bindings.getFunction?, folded]

theorem read_folded (folded : Text.lower n = Text.lower m) :
    context.read host n = context.read host m ∨
      context.getVariable? n = none ∧ context.read host n = throw (.undefinedVariable n) ∧
        context.read host m = throw (.undefinedVariable m) := by
  unfold read
  rw [← getVariable?_folded folded]
  cases context.getVariable? n with
  | some handle => exact .inl rfl
  | none => exact .inr ⟨rfl, rfl, rfl⟩

theorem call_folded (folded : Text.lower n = Text.lower m) (arguments : List Value) :
    context.call host n arguments = context.call host m arguments ∨
      context.getFunction? n = none ∧
        context.call host n arguments = throw (.undefinedFunction n) ∧
        context.call host m arguments = throw (.undefinedFunction m) := by
  unfold call
  rw [← getFunction?_folded folded]
  cases context.getFunction? n with
  | some handle => exact .inl rfl
  | none => exact .inr ⟨rfl, rfl, rfl⟩

end Context

namespace Node

variable {host : Host V F σ} {context : Context V F} {root root' : Node}

/-- The induction is on the size of the first tree. The places are those in the whole trees. -/
theorem Respelled.matched (h : Respelled t u) (place : Place) (stands : root.at? place = some t)
    (stands' : root'.at? place = some u) :
    Matched (.agreement (EvalError.Respelled context root root') .same) host host context context
      t u := by
  induction hn : t.size using Nat.strongRecOn generalizing t u place with
  | _ n ih =>
    subst hn
    cases h with
    | @node word word' k ts us folded kept operands =>
      refine .node ?_ ?_ ?_ ?_
      · rintro rfl
        exact kept nofun nofun
      · intro hk hts s
        subst hk hts
        cases operands
        rcases Context.read_folded folded with same | ⟨unbound, hread, hread'⟩
        · rw [same]
          exact .same .same _
        · rw [hread, hread']
          exact .error (.unboundVariable stands stands' folded unbound) s
      · intro hk arguments s
        subst hk
        rcases Context.call_folded folded arguments with same | ⟨unbound, hcall, hcall'⟩
        · rw [same]
          exact .same .same _
        · rw [hcall, hcall']
          exact .error (.unboundFunction stands stands' folded unbound) s
      · refine List.forall₂_iff_get.mpr ⟨operands.length_eq, fun i hi hi' => ?_⟩
        exact ih _ (size_lt (List.get_mem ..)) (operands.get hi hi') _
          (at?_operand stands (List.getElem?_eq_getElem hi))
          (at?_operand stands' (List.getElem?_eq_getElem hi')) rfl

theorem Respelled.eval_agreeing (h : Respelled root root') (host : Host V F σ)
    (context : Context V F) (s : σ) :
    Agreeing (EvalError.Respelled context root root') (eval host context root s)
      (eval host context root' s) :=
  (h.matched [] rfl rfl).holds s

end Node

theorem Expression.eval_agreeing {root root' : Node} (h : root.Respelled root') (host : Host V F σ)
    (context : Context V F) (s : σ) :
    Agreeing (EvalError.Respelled context root root') (Expression.eval host ⟨root, context⟩ s)
      (Expression.eval host ⟨root', context⟩ s) := by
  have whole := h.eval_agreeing host context s
  simp only [eval, EStateM.adaptExcept]
  generalize root.eval host context s = result, root'.eval host context s = result' at whole
  cases whole with
  | ok v s' => exact .ok v s'
  | error related s' => exact .error related.atBoundary s'

/-- Two readings of all tokens of a text, which are the same up to the case of names. Where the one
comes to a fault so does the other. -/
inductive Lexer.Respelled : EStateM.Result LexError Lexer (List Token) →
    EStateM.Result LexError Lexer (List Token) → Prop where
  | read (tokens : List.Forall₂ Token.Respelled ts us) : Respelled (.ok ts after) (.ok us after')
  | failed : Respelled (.error e after) (.error e' after')

theorem Lexer.Respelled.symm (h : Lexer.Respelled result result') :
    Lexer.Respelled result' result := by
  cases h with
  | read tokens => exact .read (tokens.flip.imp fun _ _ => Token.Respelled.symm)
  | failed => exact .failed

namespace Builder

theorem parse_respelled {builder : Builder V F} (parsed : builder.parse source = .ok expression)
    (h : Lexer.Respelled (Lexer.tokens (.ofText source)) (Lexer.tokens (.ofText other))) :
    ∃ root, builder.parse other = .ok ⟨root, builder.context⟩ ∧
      expression.root.Respelled root := by
  obtain ⟨ts, after, tokens, sentence, room, -⟩ := parse_ok_iff_tokens.mp parsed
  rw [tokens] at h
  generalize hother : Lexer.tokens (.ofText other) = result at h
  cases h with
  | read respelled =>
    obtain ⟨us, _, rfl, hus, hfinish⟩ := Token.respelled_append respelled
    obtain ⟨_, rfl, ⟨⟩⟩ := Token.respelled_cons hfinish (by simp)
    obtain ⟨root, hroot, same⟩ := Derives.respell sentence .conditional hus .kept
    refine ⟨root, parse_ok_iff_tokens.mpr ⟨us, _, hother, hroot, ?_, rfl⟩, same⟩
    rw [← same.nesting_eq]
    exact room

/-- Names mean the same in any case. Of two texts whose tokens are the same up to the case of names
both are expressions or neither is. Their trees are the same up to the case of names and have the
same names, and in any context they come to the same value or the same error, where an error about
an unbound name spells it as the text does. -/
theorem parse_eval_respelled (builder : Builder V F) (source other : String)
    (respelled : Lexer.Respelled (Lexer.tokens (.ofText source)) (Lexer.tokens (.ofText other))) :
    ((∃ expression, builder.parse source = .ok expression) ↔
      ∃ expression, builder.parse other = .ok expression) ∧
    ∀ expression expression', builder.parse source = .ok expression →
      builder.parse other = .ok expression' →
      expression.root.Respelled expression'.root ∧
      expression.variableNames = expression'.variableNames ∧
      expression.functionNames = expression'.functionNames ∧
      ∀ (σ : Type) (host : Host V F σ) (context : Context V F) (s : σ),
        Agreeing (EvalError.Respelled context expression.root expression'.root)
          (Node.eval host context expression.root s)
          (Node.eval host context expression'.root s) ∧
        Agreeing (EvalError.Respelled context expression.root expression'.root)
          (Expression.eval host ⟨expression.root, context⟩ s)
          (Expression.eval host ⟨expression'.root, context⟩ s) := by
  refine ⟨⟨?_, ?_⟩, ?_⟩
  · intro ⟨expression, parsed⟩
    obtain ⟨root, parsed', -⟩ := parse_respelled parsed respelled
    exact ⟨_, parsed'⟩
  · intro ⟨expression, parsed⟩
    obtain ⟨root, parsed', -⟩ := parse_respelled parsed respelled.symm
    exact ⟨_, parsed'⟩
  · intro expression expression' parsed parsed'
    obtain ⟨root, parsed'', same⟩ := parse_respelled parsed respelled
    rw [parsed'] at parsed''
    cases parsed''
    exact ⟨same, same.namesOf_eq .identifier, same.namesOf_eq .call, fun σ host context s =>
      ⟨same.eval_agreeing host context s, Expression.eval_agreeing same host context s⟩⟩

def capitalCall : Node :=
  ⟨.call, "F", [.leaf .identifier "Ä"]⟩

def smallCall : Node :=
  ⟨.call, "f", [.leaf .identifier "ä"]⟩

set_option maxRecDepth 1024 in
theorem respelled_call : Lexer.Respelled (Lexer.tokens (.ofText "F(Ä)"))
    (Lexer.tokens (.ofText " f (ä)")) := by
  have tokens : Lexer.tokens (.ofText "F(Ä)") = .ok [.identifier "F", .leftParen,
      .identifier "Ä", .rightParen, .finish] ⟨"F(Ä)", [], 4, 4⟩ := by cbv
  have tokens' : Lexer.tokens (.ofText " f (ä)") = .ok [.identifier "f", .leftParen,
      .identifier "ä", .rightParen, .finish] ⟨" f (ä)", [], 6, 6⟩ := by cbv
  rw [tokens, tokens']
  exact .read (.cons (.name (by cbv)) (.cons .kept (.cons (.name (by cbv))
    (.cons .kept (.cons .kept .nil)))))

set_option maxRecDepth 1024 in
/-- The function is the same for both texts, and each spells the variable in its own way. -/
theorem parse_eval_respelled_call :
    capitalCall.namesOf .identifier = smallCall.namesOf .identifier ∧
    Expression.eval recording ⟨capitalCall, recordedContext⟩ [] =
      .error (.undefinedVariable "Ä") [] ∧
    ∃ e, Expression.eval recording ⟨smallCall, recordedContext⟩ [] = .error e [] ∧
      EvalError.Respelled recordedContext capitalCall smallCall (.undefinedVariable "Ä") e := by
  have parsed : (empty : Builder String String).parse "F(Ä)" =
      .ok ⟨capitalCall, empty.context⟩ := by cbv
  have parsed' : (empty : Builder String String).parse " f (ä)" =
      .ok ⟨smallCall, empty.context⟩ := by cbv
  have failed : Expression.eval recording ⟨capitalCall, recordedContext⟩ [] =
      .error (.undefinedVariable "Ä") [] := by cbv
  obtain ⟨-, both⟩ := parse_eval_respelled empty _ _ respelled_call
  obtain ⟨-, names, -, evaluated⟩ := both _ _ parsed parsed'
  have agreeing := (evaluated _ recording recordedContext []).2
  rw [failed] at agreeing
  generalize Expression.eval recording ⟨smallCall, recordedContext⟩ [] = result at agreeing ⊢
  cases agreeing with
  | error related s => exact ⟨names, failed, _, rfl, related⟩

end Builder
end Formula
