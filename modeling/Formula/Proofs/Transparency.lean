import Formula.Proofs.Erasure
import Formula.Proofs.EvaluationFaults
import Formula.Proofs.EvaluationOrder
import Formula.Proofs.Recording
import Formula.Proofs.Replacement

namespace Formula

/-- The kinds of the nodes that pass on the value of their operand: brackets and plus signs. -/
def Kind.transparent : List Kind := [.group, .sign .plus]

theorem Kind.arity_of_transparent (h : k ∈ Kind.transparent) : k.arity = some 1 := by
  simp only [transparent, List.mem_cons, List.not_mem_nil, or_false] at h
  rcases h with rfl | rfl <;> rfl

namespace Node

section

variable (host : Host V F σ) (context : Context V F)

theorem eval_transparent (h : k ∈ Kind.transparent) (word : String) (t : Node) :
    eval host context ⟨k, word, [t]⟩ = eval host context t := by
  simp only [Kind.transparent, List.mem_cons, List.not_mem_nil, or_false] at h
  rcases h with rfl | rfl
  · rw [eval]
  · rw [eval]
    exact bind_pure _

end

variable {kinds : List Kind}

/-- A node without its brackets is no list of arguments, if it is none with them. -/
theorem WellFormed.single_without (unary : ∀ k ∈ kinds, k.arity = some 1) (h : WellFormed t) :
    (t.without kinds).kind ≠ .arguments := by
  induction t using Node.induction with
  | node k word operands ih =>
    by_cases hk : k ∈ kinds
    · obtain ⟨inner, rfl⟩ := List.length_eq_one_iff.mp ((h.sound _ .here).arity 1 (unary k hk))
      have hcall : k ≠ .call := by
        rintro rfl
        cases unary _ hk
      rw [without_erased hk]
      have mem : inner ∈ [inner] := List.mem_singleton.mpr rfl
      exact ih inner mem (h.operand hcall mem)
    · rw [without_kept hk]
      exact h.single

/-- Nothing is left of the kinds that a tree is rid of. -/
theorem kind_of_within_without (unary : ∀ k ∈ kinds, k.arity = some 1)
    (sound : ∀ n, Within n t → n.Sound) (h : Within node (t.without kinds)) :
    node.kind ∉ kinds := by
  induction t using Node.induction with
  | node k word operands ih =>
    have below : ∀ u ∈ operands, Within node (u.without kinds) → node.kind ∉ kinds :=
      fun u hu hw => ih u hu (fun n hn => sound n (.under hu hn)) hw
    by_cases hk : k ∈ kinds
    · obtain ⟨inner, rfl⟩ := List.length_eq_one_iff.mp ((sound _ .here).arity 1 (unary k hk))
      rw [without_erased hk] at h
      exact below inner (List.mem_singleton.mpr rfl) h
    · rw [without_kept hk] at h
      cases h with
      | here => exact hk
      | under operand inside =>
        obtain ⟨u, hu, rfl⟩ := List.mem_map.mp operand
        exact below u hu inside

/-- A list of arguments stands in no bracket, so that each node that is left out has a value, which
is that of its operand. -/
theorem alike_without {host : Host V F σ} {context : Context V F}
    (sound : ∀ n, Within n t → n.Sound) :
    Alike host context context (t.without Kind.transparent) t := by
  induction t using Node.induction with
  | node k word operands ih =>
    have below : ∀ u ∈ operands, Alike host context context (u.without Kind.transparent) u :=
      fun u hu => ih u hu (fun n hn => sound n (.under hu hn))
    by_cases hk : k ∈ Kind.transparent
    · have arity := Kind.arity_of_transparent hk
      obtain ⟨inner, rfl⟩ := List.length_eq_one_iff.mp ((sound _ .here).arity 1 arity)
      have hkind : k ≠ .call ∧ k ≠ .arguments := by
        constructor <;> rintro rfl <;> cases arity
      have formed : WellFormed ⟨k, word, [inner]⟩ := ⟨hkind.2, sound⟩
      have single := (formed.operand hkind.1 (List.mem_singleton.mpr rfl)).single_without
        fun _ => Kind.arity_of_transparent
      rw [without_erased hk]
      refine .given (isPair_of_kind single) (isPair_of_kind hkind.2) ?_
      rw [(below inner (List.mem_singleton.mpr rfl)).eval_eq, eval_transparent host context hk]
    · rw [without_kept hk]
      refine .node (fun _ _ => rfl) (fun _ => rfl) ?_
      exact List.forall₂_map_left_iff.mpr (List.forall₂_same.mpr below)

theorem WellFormed.eval_without (host : Host V F σ) (context : Context V F) (h : WellFormed t) :
    eval host context (t.without Kind.transparent) = eval host context t :=
  (alike_without h.sound).eval_eq

end Node

namespace Builder

/-- Brackets and plus signs change nothing. Without all of them the tree of a parsed expression
comes to the same value or the same error, from the same state and to the same state, and the same
accessors run in the same order with the same arguments. -/
theorem parse_eval_transparent (builder : Builder V F) (text : String)
    (expression : Expression V F) (parsed : builder.parse text = .ok expression) :
    (∀ node, Node.Within node (expression.root.without [.group, .sign .plus]) →
      node.kind ≠ .group ∧ node.kind ≠ .sign .plus) ∧
    ∀ (σ : Type) (host : Host V F σ) (context : Context V F) (s : σ),
      Node.eval host context (expression.root.without [.group, .sign .plus]) s =
        Node.eval host context expression.root s ∧
      Expression.eval host ⟨expression.root.without [.group, .sign .plus], context⟩ s =
        Expression.eval host ⟨expression.root, context⟩ s ∧
      ∃ runs, ∀ earlier,
        Node.eval host.noting context expression.root (s, earlier) =
          noted (earlier ++ runs) (Node.eval host context expression.root s) ∧
        Node.eval host.noting context (expression.root.without [.group, .sign .plus])
            (s, earlier) =
          noted (earlier ++ runs) (Node.eval host context expression.root s) := by
  have formed := parse_wellFormed parsed
  refine ⟨fun node inside => ?_, fun σ host context s => ?_⟩
  · have gone := Node.kind_of_within_without (fun _ => Kind.arity_of_transparent) formed.sound
      inside
    simpa [Kind.transparent] using gone
  · have same := formed.eval_without host context
    have same' := formed.eval_without host.noting context
    rw [Kind.transparent] at same same'
    obtain ⟨runs, hruns⟩ := Node.eval_noting host context expression.root s
    refine ⟨congrFun same s, ?_, runs, fun earlier => ⟨hruns earlier, ?_⟩⟩
    · simp only [Expression.eval, same]
    · rw [same', hruns]

def bracketedCall : Node :=
  .operator (.sign .plus) [⟨.call, "f", [.operator .arguments [
    .operator .group [.leaf .identifier "x"],
    .operator (.sign .plus) [.operator .group [.leaf .identifier "y"]]]]⟩]

theorem eval_bracketedCall : bracketedCall.eval recording recordedContext [] =
    .ok (.boolean true) ["x", "y", "f"] := by
  cbv

theorem parse_eval_transparent_call :
    (empty : Builder String String).parse "+f([x],+(y))" = .ok ⟨bracketedCall, empty.context⟩ ∧
    (bracketedCall.without [.group, .sign .plus]).eval recording recordedContext [] =
      .ok (.boolean true) ["x", "y", "f"] := by
  have parsed : (empty : Builder String String).parse "+f([x],+(y))" =
      .ok ⟨bracketedCall, empty.context⟩ := by cbv
  obtain ⟨-, same⟩ := parse_eval_transparent empty "+f([x],+(y))" _ parsed
  exact ⟨parsed, (same _ recording recordedContext []).1.trans eval_bracketedCall⟩

/-- No text has brackets around a list of arguments, where they would count. -/
example : Node.eval recording recordedContext ⟨.call, "f", [.operator .group
    [.operator .arguments [.leaf .identifier "x", .leaf .identifier "y"]]]⟩ [] =
    .error .unexpectedComma [] := by
  cbv

end Builder
end Formula
