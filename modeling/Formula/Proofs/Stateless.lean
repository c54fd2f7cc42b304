import Formula.Builder
import Formula.Proofs.WellFormed

namespace Formula

/-- A computation that neither looks at the state nor changes it. -/
def Steady (x : EStateM EvalError σ α) : Prop :=
  (∃ a, x = pure a) ∨ ∃ e, x = throw e

theorem steady_pure (a : α) : Steady (pure a : EStateM EvalError σ α) :=
  .inl ⟨a, rfl⟩

theorem steady_throw (e : EvalError) : Steady (throw e : EStateM EvalError σ α) :=
  .inr ⟨e, rfl⟩

theorem Steady.bind {x : EStateM EvalError σ α} {f : α → EStateM EvalError σ β} (hx : Steady x)
    (hf : ∀ a, Steady (f a)) : Steady (x >>= f) := by
  obtain ⟨a, rfl⟩ | ⟨e, rfl⟩ := hx
  · exact hf a
  · exact steady_throw e

theorem steady_converted (result : Except ConversionError α) :
    Steady (Node.converted result : EStateM EvalError σ α) := by
  cases result with
  | ok a => exact steady_pure a
  | error e => exact steady_throw (.conversion e)

/-- What a steady computation finds in one state it finds in all of them. -/
theorem Steady.eq_pure {x : EStateM EvalError σ α} (h : Steady x) (found : x s = .ok a s') :
    x = pure a := by
  obtain ⟨b, rfl⟩ | ⟨e, rfl⟩ := h
  · cases found
    rfl
  · cases found

/-- The accessors that a context binds neither look at the state nor change it. -/
structure Stateless (host : Host V F σ) (context : Context V F) : Prop where
  reads : ∀ name handle, context.getVariable? name = some handle →
    Steady (host.readVariable handle context)
  calls : ∀ name handle, context.getFunction? name = some handle → ∀ arguments,
    Steady (host.callFunction handle context arguments)

namespace Stateless

variable {host : Host V F σ} {context : Context V F}

theorem read (h : Stateless host context) (name : String) : Steady (context.read host name) := by
  unfold Context.read
  split
  · exact h.reads name _ ‹_›
  · exact steady_throw _

theorem call (h : Stateless host context) (name : String) (arguments : List Value) :
    Steady (context.call host name arguments) := by
  unfold Context.call
  split
  · exact h.calls name _ ‹_› arguments
  · exact steady_throw _

theorem evalAll {nodes : List Node} (h : ∀ node ∈ nodes, Steady (node.eval host context)) :
    Steady (Node.evalAll host context nodes) := by
  induction nodes with
  | nil =>
    rw [Node.evalAll]
    exact steady_pure []
  | cons node nodes ih =>
    obtain ⟨first, others⟩ := List.forall_mem_cons.mp h
    rw [Node.evalAll]
    exact first.bind fun v => (ih others).bind fun vs => steady_pure (v :: vs)

/-- With such accessors no evaluation looks at the state or changes it, not even that of a
malformed tree. -/
theorem eval (h : Stateless host context) (node : Node) : Steady (node.eval host context) := by
  induction hn : node.size using Nat.strongRecOn generalizing node with
  | _ n ih =>
    subst hn
    have operand : ∀ t ∈ node.operands, Steady (t.eval host context) := by
      intro t ht
      apply ih t.size ?_ t rfl
      exact Node.size_lt ht
    unfold Node.eval
    split
    · exact steady_converted _
    · exact h.read _
    · refine (evalAll ?_).bind fun vs => h.call _ vs
      intro t ht
      apply ih t.size ?_ t rfl
      rw [Node.size_mk]
      exact Nat.lt_succ_of_le (Nat.le_trans (Node.sizes_of_mem ht) (Node.sizes_arguments_le _))
    · exact steady_throw _
    · exact operand _ (by simp)
    · exact (operand _ (by simp)).bind fun v => steady_converted _
    · refine (operand _ (by simp)).bind fun v => (steady_converted _).bind fun settled => ?_
      split
      · exact steady_pure _
      · exact (operand _ (by simp)).bind fun w => steady_converted _
    · refine (operand _ (by simp)).bind fun v => (steady_converted _).bind fun b => ?_
      split
      · exact operand _ (by simp)
      · exact operand _ (by simp)
    · exact steady_throw _

/-- An expression that has a value in one state has the same value in all of them. -/
theorem eval_pure (h : Stateless host context)
    (value : Expression.eval host ⟨t, context⟩ s = .ok v s') : t.eval host context = pure v := by
  cases found : t.eval host context s with
  | ok w s₁ =>
    simp only [Expression.eval, EStateM.adaptExcept, found] at value
    cases value
    exact (h.eval t).eq_pure found
  | error e s₁ =>
    simp only [Expression.eval, EStateM.adaptExcept, found] at value
    cases value

end Stateless

/-- Handles that are values themselves. -/
def Host.constants : Host Value Value Unit where
  readVariable v _ := pure v
  callFunction v _ _ := pure v

theorem stateless_constants (context : Context Value Value) : Stateless .constants context where
  reads _ v _ := steady_pure v
  calls _ v _ _ := steady_pure v

end Formula
