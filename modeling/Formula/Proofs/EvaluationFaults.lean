import Formula.Proofs.WellFormed
import Mathlib

namespace Formula

/-- The errors of a malformed tree and of a number that has no value. -/
def EvalError.Malformed : EvalError → Prop
  | .operandCount .. | .unexpectedOperands .. | .unexpectedComma => True
  | .conversion (.format _) | .argumentConversion (.format _) => True
  | _ => False

/-! Conversions of values never fail for their text. -/

/-- A conversion that reads no text. -/
def Castable (result : Except ConversionError α) : Prop :=
  ∀ text, result ≠ .error (.format text)

theorem Castable.bind {x : Except ConversionError α} {f : α → Except ConversionError β}
    (hx : Castable x) (hf : ∀ a, Castable (f a)) : Castable (x >>= f) := by
  intro text h
  cases x with
  | ok a => exact hf a text h
  | error e =>
    cases h
    exact hx text rfl

theorem castable_pure (a : α) : Castable (pure a) := by
  intro text h
  cases h

theorem castable_toDouble (v : Value) : Castable v.toDouble := by
  intro text h
  cases v <;> simp [Value.toDouble] at h

theorem castable_toInteger (v : Value) : Castable v.toInteger := by
  intro text h
  unfold Value.toInteger at h
  split at h
  · cases h
  · cases h
  · split at h
    · split at h <;> cases h
    · cases h
  · cases h

theorem castable_toBoolean (v : Value) : Castable v.toBoolean := by
  intro text h
  cases v <;> simp [Value.toBoolean] at h

theorem castable_apply (s : Sign) (v : Value) : Castable (s.apply v) := by
  cases s with
  | plus => exact castable_pure v
  | minus => exact (castable_toDouble v).bind fun x => castable_pure _
  | not => exact (castable_toBoolean v).bind fun b => castable_pure _

theorem castable_settle? (op : Operator) (v : Value) : Castable (op.settle? v) := by
  cases op
  case multiply => exact (castable_toDouble v).bind fun x => castable_pure _
  case quotient => exact (castable_toInteger v).bind fun n => castable_pure _
  case and | or => exact (castable_toBoolean v).bind fun b => castable_pure _
  all_goals exact (castable_toDouble v).bind fun x => castable_pure _

theorem castable_combine (op : Operator) (v w : Value) : Castable (op.combine v w) := by
  cases op
  case quotient =>
    exact (castable_toInteger v).bind fun m => (castable_toInteger w).bind fun n => castable_pure _
  case and | or =>
    exact (castable_toBoolean v).bind fun a => (castable_toBoolean w).bind fun b => castable_pure _
  all_goals
    exact (castable_toDouble v).bind fun x => (castable_toDouble w).bind fun y => castable_pure _

/-- A computation that ends in no error of a malformed tree. -/
def Proper (x : EStateM EvalError σ α) : Prop :=
  ∀ s e s', x s = .error e s' → ¬ e.Malformed

theorem proper_pure (a : α) : Proper (pure a : EStateM EvalError σ α) := by
  intro s e s' h
  cases h

theorem Proper.bind {x : EStateM EvalError σ α} {f : α → EStateM EvalError σ β} (hx : Proper x)
    (hf : ∀ a, Proper (f a)) : Proper (x >>= f) := by
  intro s e s' h
  cases hr : x s with
  | ok a s₁ =>
    simp only [Bind.bind, EStateM.bind, hr] at h
    exact hf a s₁ e s' h
  | error e₁ s₁ =>
    simp only [Bind.bind, EStateM.bind, hr] at h
    cases h
    exact hx s e s' hr

theorem proper_converted {result : Except ConversionError α} (h : Castable result) :
    Proper (Node.converted result : EStateM EvalError σ α) := by
  intro s e s' he hm
  cases result with
  | ok a => cases he
  | error cause =>
    cases he
    cases cause with
    | format text => exact h text rfl
    | invalidCast _ _ | outOfRange _ => exact hm

/-- The variables and functions that a context binds end in no error of a malformed tree. -/
structure ProperAccessors (host : Host V F σ) (context : Context V F) : Prop where
  variable_proper : ∀ name handle, context.getVariable? name = some handle →
    Proper (host.readVariable handle context)
  function_proper : ∀ name handle, context.getFunction? name = some handle →
    ∀ arguments, Proper (host.callFunction handle context arguments)

namespace ProperAccessors

variable {host : Host V F σ} {context : Context V F}

theorem read (h : ProperAccessors host context) (name : String) :
    Proper (context.read host name) := by
  unfold Context.read
  cases hv : context.getVariable? name with
  | some handle => exact h.variable_proper name handle hv
  | none =>
    intro s e s' he
    cases he
    exact id

theorem call (h : ProperAccessors host context) (name : String) (arguments : List Value) :
    Proper (context.call host name arguments) := by
  unfold Context.call
  cases hf : context.getFunction? name with
  | some handle => exact h.function_proper name handle hf arguments
  | none =>
    intro s e s' he
    cases he
    exact id

end ProperAccessors

namespace Node

/-- The arguments of a call are nodes below its operands, and no pairs. -/
theorem mem_argumentsFrom (h : node ∈ argumentsFrom found row) :
    node ∈ found.toList ∨ ∃ top ∈ row, Within node top ∧ node.isPair = false := by
  have hsingles : ∀ {row' : List Node}, node ∈ singles row' →
      ∃ top ∈ row', Within node top ∧ node.isPair = false := by
    intro row' hs
    obtain ⟨hmem, hp⟩ := List.mem_filter.mp hs
    exact ⟨node, hmem, .here, by simpa using hp⟩
  fun_induction argumentsFrom found row with
  | case1 found row _ ih =>
    rcases ih h with hf | ⟨top, ht, hw, hp⟩
    · rw [Array.toList_appendList, List.mem_append] at hf
      exact hf.imp_right hsingles
    · obtain ⟨pair, hpair, hop⟩ := List.mem_flatMap.mp ht
      exact .inr ⟨pair, (List.mem_filter.mp hpair).1, .under hop hw, hp⟩
  | case2 found row _ =>
    rw [Array.toList_appendList, List.mem_append] at h
    exact h.imp_right hsingles

theorem WellFormed.argument (h : WellFormed ⟨k, name, ts⟩) (ha : a ∈ Node.arguments ts) :
    a.WellFormed ∧ a.size ≤ sizes ts := by
  obtain hn | ⟨top, ht, hw, hp⟩ := mem_argumentsFrom ha
  · simp at hn
  have hsound : ∀ node, Within node a → node.Sound :=
    fun node hn => h.sound node (.under ht (hn.trans hw))
  refine ⟨⟨?_, hsound⟩, Nat.le_trans hw.size_le (sizes_of_mem ht)⟩
  intro hk
  have hlength := (hsound a .here).arity 2 (by rw [hk]; rfl)
  simp [isPair, hk, hlength] at hp

theorem WellFormed.operand (h : WellFormed root) (hk : root.kind ≠ .call)
    (ht : t ∈ root.operands) : t.WellFormed := by
  refine ⟨?_, fun node hn => h.sound node (.under ht hn)⟩
  intro hkind
  obtain ⟨i, hi⟩ := List.getElem?_of_mem ht
  rcases (h.sound root .here).arguments i t hi hkind with hcall | ⟨harguments, -⟩
  · exact hk hcall
  · exact h.single harguments

variable {host : Host V F σ} {context : Context V F}

theorem proper_evalAll (h : ∀ node ∈ nodes, Proper (eval host context node)) :
    Proper (evalAll host context nodes) := by
  induction nodes with
  | nil =>
    rw [evalAll]
    exact proper_pure []
  | cons node rest ih =>
    rw [evalAll]
    refine (h node (List.mem_cons_self ..)).bind fun v => ?_
    refine (ih fun n hn => h n (List.mem_cons_of_mem _ hn)).bind fun vs => ?_
    exact proper_pure (v :: vs)

/-- Evaluating a well-formed tree ends in no error of a malformed one. The induction is on the size
of the tree, since the arguments of a call are found at any depth below it. -/
theorem proper_eval (accessors : ProperAccessors host context) (node : Node)
    (h : node.WellFormed) : Proper (eval host context node) := by
  induction hn : node.size using Nat.strongRecOn generalizing node with
  | _ n ih =>
    subst hn
    obtain ⟨k, name, operands⟩ := node
    have hsound := h.sound _ .here
    have hoperand : k ≠ .call → ∀ t ∈ operands, Proper (eval host context t) := by
      intro hk t ht
      refine ih t.size ?_ t (h.operand hk ht) rfl
      exact size_lt ht
    cases k with
    | number =>
      obtain rfl := List.length_eq_zero_iff.mp (hsound.arity 0 rfl)
      obtain ⟨v, hv⟩ := hsound.number rfl
      rw [eval, hv]
      exact proper_converted (castable_pure v)
    | identifier =>
      obtain rfl := List.length_eq_zero_iff.mp (hsound.arity 0 rfl)
      rw [eval]
      exact accessors.read name
    | call =>
      rw [eval]
      refine (proper_evalAll ?_).bind fun vs => accessors.call name vs
      intro a ha
      obtain ⟨hw, hle⟩ := h.argument ha
      refine ih a.size ?_ a hw rfl
      rw [size_mk]
      exact Nat.lt_succ_of_le hle
    | arguments => exact absurd rfl h.single
    | group =>
      obtain ⟨inner, rfl⟩ := List.length_eq_one_iff.mp (hsound.arity 1 rfl)
      rw [eval]
      exact hoperand (by simp) inner (by simp)
    | sign s =>
      obtain ⟨operand, rfl⟩ := List.length_eq_one_iff.mp (hsound.arity 1 rfl)
      rw [eval]
      refine (hoperand (by simp) operand (by simp)).bind fun v => ?_
      exact proper_converted (castable_apply s v)
    | operator op =>
      obtain ⟨left, right, rfl⟩ := List.length_eq_two.mp (hsound.arity 2 rfl)
      rw [eval]
      refine (hoperand (by simp) left (by simp)).bind fun v => ?_
      refine (proper_converted (castable_settle? op v)).bind fun settled => ?_
      cases settled with
      | some result => exact proper_pure result
      | none =>
        refine (hoperand (by simp) right (by simp)).bind fun w => ?_
        exact proper_converted (castable_combine op v w)
    | conditional =>
      obtain ⟨condition, yes, no, rfl⟩ := List.length_eq_three.mp (hsound.arity 3 rfl)
      rw [eval]
      refine (hoperand (by simp) condition (by simp)).bind fun v => ?_
      refine (proper_converted (castable_toBoolean v)).bind fun b => ?_
      cases b with
      | true => exact hoperand (by simp) yes (by simp)
      | false => exact hoperand (by simp) no (by simp)

/-- What the evaluation of a whole expression reports besides is never a raw conversion. -/
theorem expression_fault (accessors : ProperAccessors host context) (h : WellFormed node)
    (he : Expression.eval host ⟨node, context⟩ s = .error e s') :
    ¬ e.Malformed ∧ ∀ cause, e ≠ .conversion cause := by
  cases hr : node.eval host context s with
  | ok v s₁ => simp [Expression.eval, EStateM.adaptExcept, hr] at he
  | error raw s₁ =>
    have hraw := proper_eval accessors node h s raw s₁ hr
    simp only [Expression.eval, EStateM.adaptExcept, hr, EStateM.Result.error.injEq] at he
    obtain ⟨rfl, -⟩ := he
    cases raw with
    | conversion cause =>
      refine ⟨?_, by simp [EvalError.atBoundary]⟩
      cases cause with
      | format text => exact absurd trivial hraw
      | invalidCast _ _ | outOfRange _ => exact id
    | _ => exact ⟨hraw, by simp [EvalError.atBoundary]⟩

end Node

namespace Builder

/-- A text is read as a well-formed tree, and evaluating it over any context reports no malformed
tree, no raw conversion and no number without a value, unless an accessor does. -/
theorem parse_eval_fault (builder : Builder V F) (text : String) (expression : Expression V F)
    (parsed : builder.parse text = .ok expression) :
    expression.root.WellFormed ∧
      ∀ (σ : Type) (host : Host V F σ) (context : Context V F), ProperAccessors host context →
        ∀ s e s', Expression.eval host ⟨expression.root, context⟩ s = .error e s' →
          ¬ e.Malformed ∧ ∀ cause, e ≠ .conversion cause := by
  have hw := parse_wellFormed parsed
  exact ⟨hw, fun σ host context accessors s e s' he => Node.expression_fault accessors hw he⟩

/-- Handles of which those of functions fail to convert their arguments. -/
def failing : Host Unit Unit Unit where
  readVariable _ _ := return .boolean true
  callFunction _ _ _ := throw (.conversion (.invalidCast .datetime .double))

def failingContext : Context Unit Unit :=
  (empty.context.change (.setVariable "x" ())).change (.setFunction "f" ())

theorem failing_proper : ProperAccessors failing failingContext where
  variable_proper _ _ _ := proper_pure _
  function_proper _ _ _ _ := by
    intro s e s' h
    cases h
    exact id

def failingCall : Expression Unit Unit :=
  ⟨⟨.call, "f", [.operator .arguments [.leaf .identifier "x",
    .operator .group [.leaf .identifier "x"]]]⟩, empty.context⟩

theorem eval_failingCall : Expression.eval failing ⟨failingCall.root, failingContext⟩ () =
    .error (.argumentConversion (.invalidCast .datetime .double)) () := by
  cbv

theorem parse_eval_fault_failing :
    empty.parse "f(x,[x])" = .ok failingCall ∧ failingCall.root.WellFormed ∧
      ∃ e s', Expression.eval failing ⟨failingCall.root, failingContext⟩ () = .error e s' ∧
        ¬ e.Malformed ∧ ∀ cause, e ≠ .conversion cause := by
  have parsed : empty.parse "f(x,[x])" = .ok failingCall := by cbv
  obtain ⟨formed, proper⟩ := parse_eval_fault empty "f(x,[x])" failingCall parsed
  exact ⟨parsed, formed, _, _, eval_failingCall,
    proper Unit failing failingContext failing_proper _ _ _ eval_failingCall⟩

end Builder
end Formula
