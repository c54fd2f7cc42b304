import Formula.Proofs.NearestIntegers
import Formula.Proofs.Stateless
import Mathlib

namespace Formula

/-- Two integers have a quotient of 64 bits unless the second is zero or the quotient is `2 ^ 63`. -/
def HasQuotient (a b : Int) : Prop :=
  b ≠ 0 ∧ ¬ (a = -2 ^ 63 ∧ b = -1)

/-- A division toward zero. What remains has the sign of the dividend. -/
structure Divides (a b q r : Int) : Prop where
  exact : a = q * b + r
  small : |r| < |b|
  sign : r = 0 ∨ r.sign = a.sign

theorem divides_tdiv (a : Int) (nonzero : b ≠ 0) : Divides a b (a.tdiv b) (a.tmod b) where
  exact := by
    rw [Int.mul_comm]
    exact (Int.mul_tdiv_add_tmod a b).symm
  small := by
    rw [Int.abs_eq_natAbs, Int.abs_eq_natAbs, Int.natAbs_tmod]
    exact_mod_cast Nat.mod_lt _ (Int.natAbs_pos.mpr nonzero)
  sign := by
    rw [Int.sign_tmod]
    split_ifs with whole
    · exact .inl (Int.tmod_eq_zero_of_dvd whole)
    · exact .inr rfl

namespace Operator

variable {a b : Int64}

theorem not_hasQuotient_iff : ¬ HasQuotient a.toInt b.toInt ↔
    b = 0 ∨ (a = Int64.minValue ∧ b = -1) := by
  rw [HasQuotient, ← Int64.toInt_inj, ← Int64.toInt_inj, ← Int64.toInt_inj]
  have lowest : Int64.minValue.toInt = -2 ^ 63 := rfl
  have zero : (0 : Int64).toInt = 0 := rfl
  have minusOne : (-1 : Int64).toInt = -1 := rfl
  rw [lowest, zero, minusOne]
  tauto

theorem divideIntegers_double (h : ¬ HasQuotient a.toInt b.toInt) :
    divideIntegers a b = .double (a.toFloat / b.toFloat) :=
  if_pos (not_hasQuotient_iff.mp h)

theorem divideIntegers_integer (h : HasQuotient a.toInt b.toInt) :
    ∃ q : Int64, divideIntegers a b = .integer q ∧ q.toInt = a.toInt.tdiv b.toInt := by
  have apart : ¬ (b = 0 ∨ (a = Int64.minValue ∧ b = -1)) := fun other =>
    not_hasQuotient_iff.mpr other h
  refine ⟨a / b, if_neg apart, ?_⟩
  obtain ⟨-, notBoth⟩ := not_or.mp apart
  rcases not_and_or.mp notBoth with left | right
  · exact Int64.toInt_div_of_ne_left a b left
  · exact Int64.toInt_div_of_ne_right a b right

/-- The quotient is an integer wherever there is one of 64 bits. -/
theorem divideIntegers_outcome (a b : Int64) :
    ((∃ q, divideIntegers a b = .integer q) ↔ HasQuotient a.toInt b.toInt) ∧
    (∀ q, divideIntegers a b = .integer q → ∃ r, Divides a.toInt b.toInt q.toInt r) ∧
    (¬ HasQuotient a.toInt b.toInt → divideIntegers a b = .double (a.toFloat / b.toFloat)) := by
  by_cases has : HasQuotient a.toInt b.toInt
  · obtain ⟨q, result, quotient⟩ := divideIntegers_integer has
    rw [result]
    refine ⟨iff_of_true ⟨q, rfl⟩ has, ?_, fun hasNot => absurd has hasNot⟩
    rintro _ ⟨⟩
    rw [quotient]
    exact ⟨_, divides_tdiv a.toInt has.1⟩
  · rw [divideIntegers_double has]
    exact ⟨iff_of_false nofun has, nofun, fun _ => rfl⟩

end Operator

namespace Node

/-- Evaluates an operand that has to be converted to an integer. -/
def evalInteger (host : Host V F σ) (context : Context V F) (node : Node) :
    EStateM EvalError σ Int64 := do
  converted (← node.eval host context).toInteger

section

variable {host : Host V F σ} {context : Context V F} {node : Node} {s s₁ : σ}

theorem evalInteger_of_ok (done : node.eval host context s = .ok v s₁)
    (whole : v.toInteger = .ok n) : evalInteger host context node s = .ok n s₁ := by
  simp only [evalInteger, Bind.bind, EStateM.bind, done, whole]
  rfl

theorem evalInteger_of_error (done : node.eval host context s = .ok v s₁)
    (failed : v.toInteger = .error cause) :
    evalInteger host context node s = .error (.conversion cause) s₁ := by
  simp only [evalInteger, Bind.bind, EStateM.bind, done, failed]
  rfl

/-- Both operands are converted to integers, the left one before the right one is evaluated. -/
theorem eval_quotient (host : Host V F σ) (context : Context V F) (word : String)
    (left right : Node) : eval host context ⟨.operator .quotient, word, [left, right]⟩ = do
      let a ← evalInteger host context left
      let b ← evalInteger host context right
      return Operator.divideIntegers a b := by
  rw [eval, evalInteger, evalInteger, bind_assoc]
  refine bind_congr fun v => ?_
  have settled : Operator.quotient.settle? v = v.toInteger >>= fun _ => pure none := rfl
  have combined (w : Value) : Operator.quotient.combine v w = v.toInteger >>= fun a =>
    w.toInteger >>= fun b => pure (Operator.divideIntegers a b) := rfl
  simp only [settled, combined]
  cases v.toInteger with
  | error e => rfl
  | ok a =>
    change (eval host context right >>= fun w => converted (w.toInteger >>= fun b =>
        pure (Operator.divideIntegers a b))) =
      (eval host context right >>= fun w => converted w.toInteger) >>= fun b =>
        pure (Operator.divideIntegers a b)
    rw [bind_assoc]
    refine bind_congr fun w => ?_
    cases w.toInteger with
    | error e => rfl
    | ok b => rfl

/-- The operands of an integer division are converted to integers, the left one before the right
one is evaluated. Two integers are divided toward zero wherever their quotient has 64 bits, and as
doubles elsewhere. A double is converted to the nearest integer if that has 64 bits. -/
theorem quotient_outcome (host : Host V F σ) (context : Context V F) (word : String)
    (left right : Node) (s s₁ s₂ : σ) :
    (∀ v w a b, left.eval host context s = .ok v s₁ → v.toInteger = .ok a →
      right.eval host context s₁ = .ok w s₂ → w.toInteger = .ok b →
      ∃ result, eval host context ⟨.operator .quotient, word, [left, right]⟩ s = .ok result s₂ ∧
        ((∃ q, result = .integer q) ↔ HasQuotient a.toInt b.toInt) ∧
        (∀ q, result = .integer q → ∃ r, Divides a.toInt b.toInt q.toInt r) ∧
        (¬ HasQuotient a.toInt b.toInt → result = .double (a.toFloat / b.toFloat))) ∧
    (∀ x k, (∃ n : Int64, n.toInt = k ∧ Value.toInteger (.double x) = .ok n) ↔
      Double.Rounds x k ∧ -2 ^ 63 ≤ k ∧ k < 2 ^ 63) ∧
    (∀ x, (x.isNaN ∨ x.isInf ∨ ∀ k, Double.Rounds x k → k < -2 ^ 63 ∨ 2 ^ 63 ≤ k) →
      Value.toInteger (.double x) = .error (.outOfRange x) ∧
      ∀ node s s', node.eval host context s = .ok (.double x) s' →
        evalInteger host context node s = .error (.conversion (.outOfRange x)) s') ∧
    (∀ e, evalInteger host context left s = .error e s₁ →
      eval host context ⟨.operator .quotient, word, [left, right]⟩ s = .error e s₁) ∧
    ∀ a e, evalInteger host context left s = .ok a s₁ →
      evalInteger host context right s₁ = .error e s₂ →
      eval host context ⟨.operator .quotient, word, [left, right]⟩ s = .error e s₂ := by
  rw [eval_quotient]
  refine ⟨?_, fun x k => Value.exists_toInteger_double_iff, ?_, ?_, ?_⟩
  · intro v w a b done whole done' whole'
    refine ⟨Operator.divideIntegers a b, ?_, Operator.divideIntegers_outcome a b⟩
    simp only [Bind.bind, EStateM.bind, evalInteger_of_ok done whole,
      evalInteger_of_ok done' whole']
    rfl
  · intro x far
    have failed := Value.toInteger_double_far far
    exact ⟨failed, fun node s s' done => evalInteger_of_error done failed⟩
  · intro e failed
    simp only [Bind.bind, EStateM.bind, failed]
  · intro a e done failed
    simp only [Bind.bind, EStateM.bind, done, failed]

end

/-- A context in which two names stand for two values. -/
def pairContext (v w : Value) : Context Value Value :=
  (Builder.empty.context.change (.setVariable "x" v)).change (.setVariable "y" w)

theorem eval_x (v w : Value) :
    (leaf .identifier "x").eval .constants (pairContext v w) () = .ok v () := by
  cbv

theorem eval_y (v w : Value) :
    (leaf .identifier "y").eval .constants (pairContext v w) () = .ok w () := by
  cbv

set_option maxRecDepth 4096 in
/-- A divisor of `2.5` is taken for two. A dividend of `2 ^ 63` is one too large. -/
theorem quotient_outcome_half :
    (∃ q r, Divides (-7) 2 q r ∧ ∃ n : Int64, n.toInt = q ∧
      eval .constants (pairContext (.integer (-7)) (.double 2.5))
        ⟨.operator .quotient, "", [leaf .identifier "x", leaf .identifier "y"]⟩ () =
          .ok (.integer n) ()) ∧
    ∀ right, eval .constants (pairContext (.double 9223372036854775808) (.integer 1))
      ⟨.operator .quotient, "", [leaf .identifier "x", right]⟩ () =
        .error (.conversion (.outOfRange 9223372036854775808)) () := by
  constructor
  · have two : Double.nearestInt 2.5 = some 2 := by decide +kernel
    have whole : Value.toInteger (.double 2.5) = .ok 2 :=
      Value.toInteger_double_eq_ok_iff.mpr (Double.nearestInt_eq_some_iff.mp two)
    obtain ⟨result, value, is, divides, -⟩ := (quotient_outcome _ _ "" _ _ () () ()).1 _ _ (-7) 2
      (eval_x (.integer (-7)) (.double 2.5)) rfl (eval_y (.integer (-7)) (.double 2.5)) whole
    obtain ⟨q, rfl⟩ := is.mpr ⟨by decide, by decide⟩
    obtain ⟨r, parts⟩ := divides q rfl
    exact ⟨_, r, parts, q, rfl, value⟩
  · intro right
    have past : Double.nearestInt 9223372036854775808 = some (2 ^ 63) := by decide +kernel
    have outcome := quotient_outcome .constants
      (pairContext (.double 9223372036854775808) (.integer 1)) "" (leaf .identifier "x") right
      () () ()
    refine outcome.2.2.2.1 _ ((outcome.2.2.1 _ (.inr (.inr ?_))).2 _ _ _ (eval_x _ _))
    intro k rounds
    exact .inr (rounds.unique (Double.nearestInt_eq_some_iff.mp past)).ge

end Node
end Formula
