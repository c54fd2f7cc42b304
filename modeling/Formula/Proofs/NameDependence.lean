import Formula.Proofs.Comparison
import Formula.Proofs.EvaluationOrder
import Formula.Proofs.LowerCasing
import Formula.Proofs.NameLists

namespace Formula

/-- A name is not bound. -/
def EvalError.IsUndefined : EvalError → Prop
  | .undefinedVariable _ | .undefinedFunction _ => True
  | _ => False

namespace Context

theorem getVariable?_lower (context : Context V F) (name : String) :
    context.getVariable? (Text.lower name) = context.getVariable? name := by
  simp only [getVariable?, Bindings.getVariable?, Text.lower_lower]

theorem getVariable?_eq_none {context : Context V F} : context.getVariable? name = none ↔
    context.overrides.getVariable? name = none ∧ context.defaults.getVariable? name = none := by
  simp [getVariable?]

theorem getFunction?_eq_none {context : Context V F} : context.getFunction? name = none ↔
    context.overrides.getFunction? name = none ∧ context.defaults.getFunction? name = none := by
  simp [getFunction?]

theorem getFunction?_lower (context : Context V F) (name : String) :
    context.getFunction? (Text.lower name) = context.getFunction? name := by
  simp only [getFunction?, Bindings.getFunction?, Text.lower_lower]

end Context

namespace Expression

/-- Two contexts bind the names of an expression alike. -/
structure Agrees (expression : Expression V F) (c c' : Context V F) : Prop where
  reads : ∀ name ∈ expression.variableNames, c.getVariable? name = c'.getVariable? name
  calls : ∀ name ∈ expression.functionNames, c.getFunction? name = c'.getFunction? name

/-- The accessors that a context binds to the names of an expression do not look at the context
they run in. -/
structure Blind (host : Host V F σ) (expression : Expression V F) (context : Context V F) :
    Prop where
  reads : ∀ name ∈ expression.variableNames, ∀ handle, context.getVariable? name = some handle →
    ∀ c c', host.readVariable handle c = host.readVariable handle c'
  calls : ∀ name ∈ expression.functionNames, ∀ handle, context.getFunction? name = some handle →
    ∀ c c', host.callFunction handle c = host.callFunction handle c'

/-- A context binds all names of an expression, in one of its layers. -/
structure Bound (expression : Expression V F) (context : Context V F) : Prop where
  reads : ∀ name ∈ expression.variableNames, (context.getVariable? name).isSome
  calls : ∀ name ∈ expression.functionNames, (context.getFunction? name).isSome

/-- An accessor that a context binds to a name of an expression fails. -/
inductive Fails (host : Host V F σ) (expression : Expression V F) (context : Context V F) :
    EvalError → σ → Prop where
  | read (listed : name ∈ expression.variableNames)
      (bound : context.getVariable? name = some handle)
      (run : host.readVariable handle context s = .error e s') : Fails host expression context e s'
  | call (listed : name ∈ expression.functionNames)
      (bound : context.getFunction? name = some handle)
      (run : host.callFunction handle context arguments s = .error e s') :
      Fails host expression context e s'

/-- A name of an expression, in whatever case, is bound in neither layer of a context. -/
inductive Free (expression : Expression V F) (context : Context V F) : EvalError → Prop where
  | read (listed : Text.lower name ∈ expression.variableNames)
      (override : context.overrides.getVariable? name = none)
      (default : context.defaults.getVariable? name = none) :
      Free expression context (.undefinedVariable name)
  | call (listed : Text.lower name ∈ expression.functionNames)
      (override : context.overrides.getFunction? name = none)
      (default : context.defaults.getFunction? name = none) :
      Free expression context (.undefinedFunction name)

variable {host : Host V F σ} {expression : Expression V F} {c c' context : Context V F} {n : Node}
  {e : EvalError}

theorem lower_mem_variableNames (hn : Node.Within n expression.root) (hk : n.kind = .identifier) :
    Text.lower n.text ∈ expression.variableNames :=
  Node.mem_namesOf.mpr ⟨n, hn, hk, rfl⟩

theorem lower_mem_functionNames (hn : Node.Within n expression.root) (hk : n.kind = .call) :
    Text.lower n.text ∈ expression.functionNames :=
  Node.mem_namesOf.mpr ⟨n, hn, hk, rfl⟩

theorem Agrees.read_eq (agrees : expression.Agrees c c') (blind : expression.Blind host c)
    (hn : Node.Within n expression.root) (hk : n.kind = .identifier) :
    c.read host n.text = c'.read host n.text := by
  have listed := lower_mem_variableNames hn hk
  have same := agrees.reads _ listed
  rw [Context.getVariable?_lower, Context.getVariable?_lower] at same
  unfold Context.read
  rw [← same]
  cases hv : c.getVariable? n.text with
  | none => rfl
  | some handle =>
    rw [← Context.getVariable?_lower] at hv
    exact blind.reads _ listed handle hv c c'

theorem Agrees.call_eq (agrees : expression.Agrees c c') (blind : expression.Blind host c)
    (hn : Node.Within n expression.root) (hk : n.kind = .call) :
    c.call host n.text = c'.call host n.text := by
  have listed := lower_mem_functionNames hn hk
  have same := agrees.calls _ listed
  rw [Context.getFunction?_lower, Context.getFunction?_lower] at same
  funext arguments
  unfold Context.call
  rw [← same]
  cases hf : c.getFunction? n.text with
  | none => rfl
  | some handle =>
    rw [← Context.getFunction?_lower] at hf
    exact congrFun (blind.calls _ listed handle hf c c') arguments

/-- Only the names of an expression count. -/
theorem Agrees.eval_eq (agrees : expression.Agrees c c') (blind : expression.Blind host c) :
    eval host ⟨expression.root, c⟩ = eval host ⟨expression.root, c'⟩ := by
  have matched : Node.Matched (.equality σ) host host c c' expression.root expression.root :=
    Node.matched_self (fun n => agrees.read_eq blind)
      (fun n hn hk => congrFun (agrees.call_eq blind hn hk))
  have same : expression.root.eval host c = expression.root.eval host c' := matched.holds
  unfold eval
  rw [same]

theorem atBoundary_undefined (h : e.atBoundary.IsUndefined) : e.atBoundary = e := by
  cases e with
  | conversion cause => exact h.elim
  | _ => rfl

theorem fails_of_invokes {place : Place}
    (run : Traversal.Invokes host context expression.root answers place s (.error e s')) :
    expression.Fails host context e s' := by
  obtain ⟨node, stands, accesses⟩ := run
  have inside := Node.within_of_at? stands
  cases accesses with
  | read bound run =>
    rw [← Context.getVariable?_lower] at bound
    exact .read (lower_mem_variableNames inside rfl) bound run
  | call bound given run =>
    rw [← Context.getFunction?_lower] at bound
    exact .call (lower_mem_functionNames inside rfl) bound run

theorem free_of_unbound {place : Place} (stands : expression.root.at? place = some n)
    (free : Traversal.Unbound context n e) : expression.Free context e := by
  have inside := Node.within_of_at? stands
  cases free with
  | «variable» free =>
    obtain ⟨override, default⟩ := Context.getVariable?_eq_none.mp free
    have listed := lower_mem_variableNames inside rfl
    exact .read listed override default
  | function free =>
    obtain ⟨override, default⟩ := Context.getFunction?_eq_none.mp free
    have listed := lower_mem_functionNames inside rfl
    exact .call listed override default

/-- A name counts as undefined only if it is, or if an accessor says so. -/
theorem fails_or_free (formed : expression.root.WellFormed)
    (failed : eval host ⟨expression.root, context⟩ s = .error e s') (undefined : e.IsUndefined) :
    expression.Fails host context e s' ∨ expression.Free context e := by
  have reports := (Traversal.reports_eval host context _ expression.root rfl).1 formed s
  have once := Node.nodup_places expression.root
  cases hraw : expression.root.eval host context s with
  | ok v s₁ => simp [eval, EStateM.adaptExcept, hraw] at failed
  | error raw s₁ =>
    simp only [eval, EStateM.adaptExcept, hraw, EStateM.Result.error.injEq] at failed
    obtain ⟨rfl, rfl⟩ := failed
    have same := atBoundary_undefined undefined
    rw [same] at undefined ⊢
    rw [hraw] at reports
    cases reports with
    | stopped split through stops =>
      have agrees := Answers.agrees_ofLog
        ((split ▸ once).sublist (through.listed.trans (List.sublist_append_left ..)))
      cases stops _ agrees with
      | accessor due run => exact .inl (fails_of_invokes run)
      | unbound due stands free => exact .inr (free_of_unbound stands free)
      | refused => exact undefined.elim

theorem Bound.not_free (bound : expression.Bound context) : ¬ expression.Free context e := by
  intro free
  cases free with
  | @read name listed override default =>
    have h := bound.reads _ listed
    rw [Context.getVariable?_lower, Context.getVariable?_eq_none.mpr ⟨override, default⟩] at h
    cases h
  | @call name listed override default =>
    have h := bound.calls _ listed
    rw [Context.getFunction?_lower, Context.getFunction?_eq_none.mpr ⟨override, default⟩] at h
    cases h

end Expression

namespace Builder

/-- What a parsed expression comes to depends on its context only through the names that the
expression lists, if their accessors do not look at it. A name counts as undefined only if it is
listed and not bound, unless an accessor says so. -/
theorem parse_eval_names (builder : Builder V F) (text : String) (expression : Expression V F)
    (parsed : builder.parse text = .ok expression) (σ : Type) (host : Host V F σ)
    (context : Context V F) :
    (∀ c', expression.Agrees context c' → expression.Blind host context → ∀ s,
      Expression.eval host ⟨expression.root, context⟩ s =
        Expression.eval host ⟨expression.root, c'⟩ s) ∧
    (∀ s e s', Expression.eval host ⟨expression.root, context⟩ s = .error e s' → e.IsUndefined →
      expression.Fails host context e s' ∨ expression.Free context e) ∧
    (expression.Bound context → ∀ s e s',
      Expression.eval host ⟨expression.root, context⟩ s = .error e s' → e.IsUndefined →
        expression.Fails host context e s') := by
  have formed := parse_wellFormed parsed
  refine ⟨?_, ?_, ?_⟩
  · intro c' agrees blind s
    rw [agrees.eval_eq blind]
  · intro s e s' failed undefined
    exact Expression.fails_or_free formed failed undefined
  · intro bound s e s' failed undefined
    exact (Expression.fails_or_free formed failed undefined).resolve_right bound.not_free

/-- Handles of which those of variables find something else missing. -/
def forwarding : Host String String Unit where
  readVariable handle _ := throw (.undefinedVariable handle)
  callFunction _ _ _ := return .boolean true

def forwardedCall : Expression String String :=
  ⟨⟨.call, "F", [.leaf .identifier "X"]⟩, empty.context⟩

def forwardedContext : Context String String :=
  (empty.context.change (.setVariable "x" "origin")).change (.setFunction "f" "f")

theorem forwardedCall_names : forwardedCall.variableNames.toList = ["x"] ∧
    forwardedCall.functionNames.toList = ["f"] := by
  constructor <;> cbv

theorem forwardedCall_blind (context : Context String String) :
    forwardedCall.Blind forwarding context :=
  ⟨fun _ _ _ _ _ _ => rfl, fun _ _ _ _ _ _ => rfl⟩

theorem forwardedCall_bound : forwardedCall.Bound forwardedContext := by
  obtain ⟨reads, calls⟩ := forwardedCall_names
  constructor
  · intro name listed
    rw [← Std.TreeSet.mem_toList, reads, List.mem_singleton] at listed
    subst listed
    cbv
  · intro name listed
    rw [← Std.TreeSet.mem_toList, calls, List.mem_singleton] at listed
    subst listed
    cbv

theorem forwardedCall_agrees :
    forwardedCall.Agrees forwardedContext (forwardedContext.change (.setVariable "y" "y")) := by
  obtain ⟨reads, calls⟩ := forwardedCall_names
  constructor
  · intro name listed
    rw [← Std.TreeSet.mem_toList, reads, List.mem_singleton] at listed
    subst listed
    cbv
  · intro name listed
    rfl

theorem eval_forwardedCall :
    Expression.eval forwarding ⟨forwardedCall.root, forwardedContext⟩ () =
        .error (.undefinedVariable "origin") () ∧
      Expression.eval forwarding forwardedCall () = .error (.undefinedVariable "X") () := by
  constructor <;> cbv

/-- A variable that is not bound is undefined under its own name, and a bound one can still fail. -/
theorem parse_eval_names_forwarded :
    empty.parse "F(X)" = .ok forwardedCall ∧
      Expression.eval forwarding ⟨forwardedCall.root, forwardedContext⟩ () =
        Expression.eval forwarding
          ⟨forwardedCall.root, forwardedContext.change (.setVariable "y" "y")⟩ () ∧
      (forwardedCall.Fails forwarding empty.context (.undefinedVariable "X") () ∨
        forwardedCall.Free empty.context (.undefinedVariable "X")) ∧
      forwardedCall.Fails forwarding forwardedContext (.undefinedVariable "origin") () := by
  have parsed : empty.parse "F(X)" = .ok forwardedCall := by cbv
  obtain ⟨bound, free⟩ := eval_forwardedCall
  obtain ⟨same, -, fails⟩ :=
    parse_eval_names empty "F(X)" forwardedCall parsed Unit forwarding forwardedContext
  obtain ⟨-, undefined, -⟩ :=
    parse_eval_names empty "F(X)" forwardedCall parsed Unit forwarding empty.context
  exact ⟨parsed, same _ forwardedCall_agrees (forwardedCall_blind _) (),
    undefined _ _ _ free trivial, fails forwardedCall_bound _ _ _ bound trivial⟩

end Builder
end Formula
