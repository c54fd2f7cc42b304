import Formula.Proofs.Comparison

namespace Formula
namespace Node

variable (host : Host V F σ) (c c' : Context V F)

/-- Two trees, each in a context of its own, that differ only where their values do not. Their names
mean the same in both contexts. -/
inductive Alike : Node → Node → Prop where
  | given (single : t.isPair = false) (single' : u.isPair = false)
      (same : eval host c t = eval host c' u) : Alike t u
  | node (read : k = .identifier → ts = [] → c.read host word = c'.read host word)
      (call : k = .call → c.call host word = c'.call host word)
      (operands : List.Forall₂ Alike ts us) : Alike ⟨k, word, ts⟩ ⟨k, word, us⟩

variable {host c c'}

/-- The induction is on the size of the first tree, whose operands are related as a list. -/
theorem Alike.matched (h : Alike host c c' t u) : Matched (.equality σ) host host c c' t u := by
  induction hn : t.size using Nat.strongRecOn generalizing t u with
  | _ n ih =>
    subst hn
    cases h with
    | given single single' same => exact .given single single' same
    | @node k ts word us read call operands =>
      refine .node (fun _ => rfl) read (fun hk => congrFun (call hk)) ?_
      exact forall₂_of_smaller operands fun t u smaller alike => ih t.size smaller alike rfl

/-- Trees that are alike have the same outcome. -/
theorem Alike.eval_eq (h : Alike host c c' t u) : eval host c t = eval host c' u :=
  h.matched.holds

end Node
end Formula
