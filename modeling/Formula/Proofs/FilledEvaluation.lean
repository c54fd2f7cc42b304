import Formula.Proofs.FilledText
import Formula.Proofs.Stateless

namespace Formula
namespace Context

/-- The accessors that a context binds do not look at the context they run in. -/
structure Blind (host : Host V F σ) (context : Context V F) : Prop where
  reads : ∀ name handle, context.getVariable? name = some handle →
    ∀ c c', host.readVariable handle c = host.readVariable handle c'
  calls : ∀ name handle, context.getFunction? name = some handle →
    ∀ c c', host.callFunction handle c = host.callFunction handle c'

variable {host : Host V F σ} {context : Context V F} {x name : String} {handle : V}

theorem getVariable?_setVariable (h : Text.lower name = Text.lower x) :
    (context.change (.setVariable x handle)).getVariable? name = some handle := by
  simp [change, getVariable?, Bindings.change, Bindings.setVariable, Bindings.getVariable?, h]

theorem getVariable?_setOther (h : Text.lower name ≠ Text.lower x) :
    (context.change (.setVariable x handle)).getVariable? name = context.getVariable? name := by
  simp [change, getVariable?, Bindings.change, Bindings.setVariable, Bindings.getVariable?,
    Std.TreeMap.getElem?_insert, Ne.symm h]

theorem Blind.read_setOther (blind : context.Blind host) (h : Text.lower name ≠ Text.lower x) :
    context.read host name = (context.change (.setVariable x handle)).read host name := by
  unfold read
  rw [getVariable?_setOther h]
  cases hv : context.getVariable? name with
  | none => rfl
  | some other => exact blind.reads name other hv _ _

theorem Blind.call_setVariable (blind : context.Blind host) (name : String) :
    context.call host name = (context.change (.setVariable x handle)).call host name := by
  have same : (context.change (.setVariable x handle)).getFunction? name =
      context.getFunction? name := rfl
  funext arguments
  unfold call
  rw [same]
  cases hf : context.getFunction? name with
  | none => rfl
  | some other => exact congrFun (blind.calls name other hf _ _) arguments

end Context

namespace Expression

variable {host : Host V F σ} {context : Context V F} {handle : V}

/-- An expression with another one filled in comes to what it comes to when the variable is bound to
the value of the other. -/
theorem eval_fill (stateless : Stateless host context) (blind : context.Blind host)
    (constant : ∀ c, host.readVariable handle c = pure v)
    (value : eval host ⟨u, context⟩ s = .ok v s') (t : Node) (x : String) :
    eval host ⟨t.fill x u, context⟩ =
      eval host ((⟨t, context⟩ : Expression V F).change (.setVariable x handle)) := by
  have hvalue : u.eval host context = pure v := stateless.eval_pure value
  have hbound : ∀ name, Text.lower name = Text.lower x →
      (context.change (.setVariable x handle)).read host name = pure v := by
    intro name h
    rw [Context.read, Context.getVariable?_setVariable h]
    exact constant _
  have alike : Node.Alike host context (context.change (.setVariable x handle)) (t.fill x u) t :=
    Node.alike_fill hvalue hbound (fun _ => blind.read_setOther) blind.call_setVariable
  rw [eval, alike.eval_eq]
  rfl

end Expression

namespace Builder

/-- A text with an expression in brackets for each variable of a name is an expression if there is
room for both, and its tree is the one of the text with the other one for the variable. -/
theorem parse_fill {builder : Builder V F} {text source inner : String} {m n limit : Nat}
    (whole : { builder with limit := m }.parse source = .ok expression)
    (part : { builder with limit := n }.parse inner = .ok filling)
    (filled : Filled x inner.toList source.toList text.toList) (room : m + n ≤ limit) :
    { builder with limit }.parse text =
      .ok ⟨expression.root.fill x filling.root, builder.context⟩ := by
  obtain ⟨ts, hsource, hs, hm⟩ := layout_of_parse whole
  obtain ⟨us, hinner, hu, hn⟩ := layout_of_parse part
  obtain ⟨ts', vs, hsource', htext, hf⟩ := filled.layout hinner
  obtain rfl := hsource.unique hsource'
  apply parse_of_layout { builder with limit } htext (hs.fill hu hf)
  have hle := Node.nesting_fill_le (x := x) (u := filling.root) (t := expression.root)
  simp only at hm hn ⊢
  omega

/-- An expression can be filled in for a variable of another one, in brackets and wherever the
variable stands. With accessors that keep no state and do not look at their context, this comes to
the same as binding the variable to the value of what is filled in. -/
theorem parse_eval_filled {σ : Type} (builder : Builder (Variable V) (Function F))
    (readVariable : V → Context (Variable V) (Function F) → EStateM EvalError σ Value)
    (callFunction : F → Context (Variable V) (Function F) → List Value →
      EStateM EvalError σ Value) (x source inner : String) (m n : Nat)
    (expression filling : Expression (Variable V) (Function F))
    (whole : { builder with limit := m }.parse source = .ok expression)
    (part : { builder with limit := n }.parse inner = .ok filling) :
    (∃ text : String, Filled x inner.toList source.toList text.toList) ∧
    (∀ text : String, Filled x inner.toList source.toList text.toList → ∀ limit, m + n ≤ limit →
      { builder with limit }.parse text =
        .ok ⟨expression.root.fill x filling.root, builder.context⟩) ∧
    ∀ context v, Stateless (.standard readVariable callFunction) context →
      context.Blind (.standard readVariable callFunction) →
      (∃ s s', Expression.eval (.standard readVariable callFunction) ⟨filling.root, context⟩ s =
        .ok v s') →
      ∀ s, Expression.eval (.standard readVariable callFunction)
          ⟨expression.root.fill x filling.root, context⟩ s =
        Expression.eval (.standard readVariable callFunction)
          (Expression.change ⟨expression.root, context⟩ (.setVariable x (.constant v))) s := by
  refine ⟨?_, ?_, ?_⟩
  · obtain ⟨ts, hsource, -⟩ := layout_of_parse whole
    obtain ⟨text, hf⟩ := Filled.exists_of_layout hsource x inner.toList .round
    exact ⟨.ofList text, String.toList_ofList ▸ hf⟩
  · intro text filled limit room
    exact parse_fill whole part filled room
  · intro context v stateless blind value s
    obtain ⟨s₁, s₂, value⟩ := value
    have constant : ∀ c, (Host.standard readVariable callFunction).readVariable (.constant v) c =
        pure v := fun _ => rfl
    rw [Expression.eval_fill stateless blind constant value]

def negation : Node :=
  .operator (.operator .and) [.operator (.sign .not) [.leaf .identifier "x"],
    .leaf .identifier "X"]

def disjunction : Node :=
  .operator (.operator .or) [.leaf .identifier "a", .leaf .identifier "a"]

/-- A context in which one variable is true. -/
def trueContext : Context (Variable Empty) (Function Empty) :=
  empty.context.change (.setVariable "a" (.constant (.boolean true)))

set_option maxRecDepth 1024 in
theorem filled_negation (inner : List Char) : Filled "x" inner ['!', 'x', '&', '&', 'X']
    (['!', '('] ++ inner ++ [')', '&', '&', '['] ++ inner ++ [']']) := by
  have read : Reading.ofText ['x', '&', '&', 'X'] = .token (.identifier "x") 1 := by cbv
  have read' : Reading.ofText ['X'] = .token (.identifier "X") 1 := by cbv
  have refers : RefersIn "x" (.identifier "x") ['&', '&', 'X'] := ⟨"x", rfl, rfl, by decide⟩
  have refers' : RefersIn "x" (.identifier "X") [] := ⟨"X", rfl, by cbv, by decide⟩
  have last : Filled "x" inner ['X'] ('[' :: (inner ++ [']'])) :=
    @Filled.fill _ _ [] ['X'] [] _ _ blank_nil read' refers' .square (.finish blank_nil)
  have both := @Filled.keep "x" inner [] ['&', '&'] ['X'] .and _ blank_nil rfl (by simp)
    (by simp [RefersIn]) last
  have first := @Filled.fill "x" inner [] ['x'] ['&', '&', 'X'] _ _ blank_nil read refers .round both
  have whole := @Filled.keep "x" inner [] ['!'] ['x', '&', '&', 'X'] .exclamation _ blank_nil rfl
    (by simp) (by simp [RefersIn]) first
  simpa [Bracket.openingChar, Bracket.closingChar] using whole

theorem stateless_trueContext : Stateless (σ := Unit) (.standard nofun nofun) trueContext where
  reads name handle _ := by
    obtain v | ⟨⟨⟩⟩ := handle
    exact steady_pure v
  calls name handle bound := by cases bound

theorem blind_trueContext : trueContext.Blind (σ := Unit) (.standard nofun nofun) where
  reads name handle _ c c' := by
    obtain v | ⟨⟨⟩⟩ := handle
    rfl
  calls name handle bound := by cases bound

set_option maxRecDepth 1024 in
/-- Without its brackets the disjunction would come apart. -/
theorem parse_eval_filled_disjunction :
    ({ limit := 4 } : Builder (Variable Empty) (Function Empty)).parse "!(a||a)&&[a||a]" =
        .ok ⟨negation.fill "x" disjunction, empty.context⟩ ∧
      Expression.eval (.standard nofun nofun) ⟨negation.fill "x" disjunction, trueContext⟩ () =
        .ok (.boolean false) () := by
  have whole : ({ limit := 2 } : Builder (Variable Empty) (Function Empty)).parse "!x&&X" =
      .ok ⟨negation, empty.context⟩ := by cbv
  have part : ({ limit := 2 } : Builder (Variable Empty) (Function Empty)).parse "a||a" =
      .ok ⟨disjunction, empty.context⟩ := by cbv
  have value : Expression.eval (.standard nofun nofun) ⟨disjunction, trueContext⟩ () =
      .ok (.boolean true) () := by cbv
  have value' : Expression.eval (.standard nofun nofun)
      (Expression.change ⟨negation, trueContext⟩ (.setVariable "x" (.constant (.boolean true))))
      () = .ok (.boolean false) () := by cbv
  obtain ⟨-, parsed, evaluated⟩ := parse_eval_filled (σ := Unit) empty nofun nofun "x" "!x&&X"
    "a||a" 2 2 _ _ whole part
  have filled := filled_negation "a||a".toList
  refine ⟨parsed "!(a||a)&&[a||a]" filled 4 (by decide), ?_⟩
  rw [← value']
  exact evaluated trueContext _ stateless_trueContext blind_trueContext ⟨(), (), value⟩ ()

end Builder
end Formula
