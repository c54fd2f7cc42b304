import Formula.Proofs.ArgumentRows
import Formula.Proofs.WellFormed

namespace Formula

/-- A relation between computations over two types of states that holds of equal values, of equal
failures, and of steps one after the other if it holds of each step. -/
structure Comparison (σ τ : Type) where
  Holds : {α : Type} → EStateM EvalError σ α → EStateM EvalError τ α → Prop
  of_pure : ∀ {α : Type} (a : α), Holds (pure a) (pure a)
  of_throw : ∀ {α : Type} (e : EvalError), Holds (throw e : EStateM EvalError σ α) (throw e)
  of_bind : ∀ {α β : Type} {x : EStateM EvalError σ α} {y : EStateM EvalError τ α}
    {f : α → EStateM EvalError σ β} {g : α → EStateM EvalError τ β},
    Holds x y → (∀ a, Holds (f a) (g a)) → Holds (x >>= f) (y >>= g)

namespace Comparison

/-- Computations that are the same. -/
def equality (σ : Type) : Comparison σ σ where
  Holds x y := x = y
  of_pure _ := rfl
  of_throw _ := rfl
  of_bind same rest := by rw [same, funext rest]

theorem of_converted (comparison : Comparison σ τ) (result : Except ConversionError α) :
    comparison.Holds (Node.converted result) (Node.converted result) := by
  cases result with
  | ok a => exact comparison.of_pure a
  | error e => exact comparison.of_throw (.conversion e)

end Comparison

namespace Node

section

variable (host : Host V F σ) (context : Context V F)

/-- A node with too few or too many operands fails, whatever these are. -/
theorem eval_malformed {operands : List Node} (hk : k.arity = some n)
    (hl : operands.length ≠ n) (word : String) :
    eval host context ⟨k, word, operands⟩ = throw (.malformed k n operands.length) := by
  unfold eval
  split
  case h_3 heq =>
    cases heq
    cases hk
  case h_9 heq =>
    cases heq
    rw [hk]
    rfl
  all_goals
    rename_i heq
    cases heq
    cases hk
    exact absurd rfl hl

end

variable (comparison : Comparison σ τ) (host : Host V F σ) (host' : Host W G τ)
  (c : Context V F) (c' : Context W G)

/-- Two trees, each in a context of its own, that have the same shape but where their evaluations
compare. What their names refer to compares as well. -/
inductive Matched : Node → Node → Prop where
  | given (single : t.isPair = false) (single' : u.isPair = false)
      (holds : comparison.Holds (eval host c t) (eval host' c' u)) : Matched t u
  | node (number : k = .number → word = word')
      (read : k = .identifier → ts = [] →
        comparison.Holds (c.read host word) (c'.read host' word'))
      (call : k = .call → ∀ arguments,
        comparison.Holds (c.call host word arguments) (c'.call host' word' arguments))
      (operands : List.Forall₂ Matched ts us) : Matched ⟨k, word, ts⟩ ⟨k, word', us⟩

variable {comparison host host' c c'}

theorem Matched.isPair_eq (h : Matched comparison host host' c c' t u) : t.isPair = u.isPair := by
  cases h with
  | given single single' holds => rw [single, single']
  | node number read call operands => simp [isPair, operands.length_eq]

theorem Matched.below_pair (h : Matched comparison host host' c c' t u) (hp : t.isPair = true) :
    List.Forall₂ (Matched comparison host host' c c') t.operands u.operands := by
  cases h with
  | given single single' holds => rw [single] at hp; cases hp
  | node number read call operands => exact operands

/-- A tree matches itself where its own names compare. -/
theorem matched_self
    (read : ∀ n, Within n t → n.kind = .identifier →
      comparison.Holds (c.read host n.text) (c'.read host' n.text))
    (call : ∀ n, Within n t → n.kind = .call → ∀ arguments,
      comparison.Holds (c.call host n.text arguments) (c'.call host' n.text arguments)) :
    Matched comparison host host' c c' t t := by
  induction t using Node.induction with
  | node k word operands ih =>
    refine .node (fun _ => rfl) (fun hk _ => read ⟨k, word, operands⟩ .here hk)
      (call ⟨k, word, operands⟩ .here) (List.forall₂_same.mpr ?_)
    intro u hu
    exact ih u hu (fun n hn => read n (.under hu hn)) (fun n hn => call n (.under hu hn))

variable {row row' : List Node}

theorem matched_any_isPair (h : List.Forall₂ (Matched comparison host host' c c') row row') :
    row.any isPair = row'.any isPair := by
  induction h with
  | nil => rfl
  | cons first _ ih => rw [List.any_cons, List.any_cons, first.isPair_eq, ih]

theorem matched_singles (h : List.Forall₂ (Matched comparison host host' c c') row row') :
    List.Forall₂ (Matched comparison host host' c c') (singles row) (singles row') := by
  induction h with
  | nil => exact .nil
  | @cons t u row row' first _ ih =>
    have hpair := first.isPair_eq
    cases hp : u.isPair with
    | true => simpa [singles, hpair, hp] using ih
    | false => simpa [singles, hpair, hp] using ⟨first, ih⟩

theorem matched_pairsBelow (h : List.Forall₂ (Matched comparison host host' c c') row row') :
    List.Forall₂ (Matched comparison host host' c c') (pairsBelow row) (pairsBelow row') := by
  induction h with
  | nil => exact .nil
  | @cons t u row row' first _ ih =>
    have hpair := first.isPair_eq
    cases hp : u.isPair with
    | true =>
      have hbelow := first.below_pair (hpair.trans hp)
      simpa [pairsBelow, rowBelow, hpair, hp] using List.rel_append hbelow ih
    | false => simpa [pairsBelow, rowBelow, hpair, hp] using ih

theorem matched_argumentsFrom {found found' : Array Node}
    (hf : List.Forall₂ (Matched comparison host host' c c') found.toList found'.toList)
    (h : List.Forall₂ (Matched comparison host host' c c') row row') :
    List.Forall₂ (Matched comparison host host' c c') (argumentsFrom found row)
      (argumentsFrom found' row') := by
  fun_induction argumentsFrom found row generalizing found' row' with
  | case1 found row hany ih =>
    have hright : argumentsFrom found' row' =
        argumentsFrom (found' ++ singles row') (pairsBelow row') := by
      rw [argumentsFrom, if_pos (matched_any_isPair h ▸ hany)]
    rw [hright]
    apply ih
    · simpa using List.rel_append hf (matched_singles h)
    · exact matched_pairsBelow h
  | case2 found row hany =>
    rw [argumentsFrom, if_neg (matched_any_isPair h ▸ hany)]
    simpa using List.rel_append hf (matched_singles h)

theorem matched_evalAll (h : List.Forall₂ (Matched comparison host host' c c') row row')
    (holds : ∀ t ∈ row, ∀ u, Matched comparison host host' c c' t u →
      comparison.Holds (eval host c t) (eval host' c' u)) :
    comparison.Holds (evalAll host c row) (evalAll host' c' row') := by
  induction h with
  | nil =>
    rw [evalAll, evalAll]
    exact comparison.of_pure []
  | @cons t u row row' first _ ih =>
    obtain ⟨hfirst, hothers⟩ := List.forall_mem_cons.mp holds
    rw [evalAll_cons, evalAll_cons]
    refine comparison.of_bind (hfirst u first) fun v => ?_
    exact comparison.of_bind (ih hothers) fun vs => comparison.of_pure (v :: vs)

/-- Of nodes with as many operands either none has the right number of them, or both have. -/
theorem holds_of_arity (comparison : Comparison σ τ) {k : Kind} {word word' : String}
    {ts us : List Node} (many : ts.length = us.length)
    (holds : (∀ n, k.arity = some n → ts.length = n) →
      comparison.Holds (eval host c ⟨k, word, ts⟩) (eval host' c' ⟨k, word', us⟩)) :
    comparison.Holds (eval host c ⟨k, word, ts⟩) (eval host' c' ⟨k, word', us⟩) := by
  by_cases wrong : ∃ n, k.arity = some n ∧ ts.length ≠ n
  · obtain ⟨n, hk, hl⟩ := wrong
    rw [eval_malformed host c hk hl, eval_malformed host' c' hk (many ▸ hl), many]
    exact comparison.of_throw _
  · apply holds
    intro n hk
    exact Classical.not_not.mp fun hl => wrong ⟨n, hk, hl⟩

/-- The evaluations of matched trees compare. The induction is on the size of the first, since the
arguments of a call are found at any depth below it. -/
theorem Matched.holds (h : Matched comparison host host' c c' t u) :
    comparison.Holds (eval host c t) (eval host' c' u) := by
  induction hn : t.size using Nat.strongRecOn generalizing t u with
  | _ n ih =>
    subst hn
    cases h with
    | given _ _ holds => exact holds
    | @node k word word' ts us number read call operands =>
      have hoperand : ∀ t ∈ ts, ∀ u, Matched comparison host host' c c' t u →
          comparison.Holds (eval host c t) (eval host' c' u) := by
        intro t ht u hu
        apply ih t.size ?_ hu rfl
        exact size_lt ht
      refine holds_of_arity comparison operands.length_eq fun arity => ?_
      cases k with
      | number =>
        obtain rfl := List.length_eq_zero_iff.mp (arity 0 rfl)
        obtain rfl := number rfl
        cases operands
        rw [eval, eval]
        exact comparison.of_converted _
      | identifier =>
        obtain rfl := List.length_eq_zero_iff.mp (arity 0 rfl)
        cases operands
        rw [eval, eval]
        exact read rfl rfl
      | call =>
        have harguments : List.Forall₂ (Matched comparison host host' c c') (arguments ts)
            (arguments us) := matched_argumentsFrom .nil operands
        rw [eval, eval]
        refine comparison.of_bind (matched_evalAll harguments ?_) (call rfl)
        intro t ht u hu
        apply ih t.size ?_ hu rfl
        rw [size_mk]
        exact Nat.lt_succ_of_le (Nat.le_trans (sizes_of_mem ht) (sizes_arguments_le ts))
      | arguments =>
        obtain ⟨first, others, rfl⟩ := List.length_eq_two.mp (arity 2 rfl)
        obtain _ | ⟨-, _ | ⟨-, ⟨⟩⟩⟩ := operands
        rw [eval, eval]
        exact comparison.of_throw _
      | group =>
        obtain ⟨inner, rfl⟩ := List.length_eq_one_iff.mp (arity 1 rfl)
        obtain _ | ⟨hinner, ⟨⟩⟩ := operands
        rw [eval, eval]
        exact hoperand inner (by simp) _ hinner
      | sign s =>
        obtain ⟨operand, rfl⟩ := List.length_eq_one_iff.mp (arity 1 rfl)
        obtain _ | ⟨hsigned, ⟨⟩⟩ := operands
        rw [eval, eval]
        refine comparison.of_bind (hoperand operand (by simp) _ hsigned) fun v => ?_
        exact comparison.of_converted _
      | operator op =>
        obtain ⟨left, right, rfl⟩ := List.length_eq_two.mp (arity 2 rfl)
        obtain _ | ⟨hleft, _ | ⟨hright, ⟨⟩⟩⟩ := operands
        rw [eval, eval]
        refine comparison.of_bind (hoperand left (by simp) _ hleft) fun v => ?_
        refine comparison.of_bind (comparison.of_converted _) fun settled => ?_
        cases settled with
        | some result => exact comparison.of_pure result
        | none =>
          refine comparison.of_bind (hoperand right (by simp) _ hright) fun w => ?_
          exact comparison.of_converted _
      | conditional =>
        obtain ⟨condition, yes, no, rfl⟩ := List.length_eq_three.mp (arity 3 rfl)
        obtain _ | ⟨hcondition, _ | ⟨hyes, _ | ⟨hno, ⟨⟩⟩⟩⟩ := operands
        rw [eval, eval]
        refine comparison.of_bind (hoperand condition (by simp) _ hcondition) fun v => ?_
        refine comparison.of_bind (comparison.of_converted _) fun b => ?_
        cases b with
        | true => exact hoperand yes (by simp) _ hyes
        | false => exact hoperand no (by simp) _ hno

end Node
end Formula
