import Formula.Proofs.WellFormed

namespace Formula
namespace Node

theorem within_iff (root : Node) :
    Within n root ↔ n = root ∨ ∃ child ∈ root.operands, Within n child := by
  constructor
  · intro h
    cases h with
    | here => exact .inl rfl
    | under operand inside => exact .inr ⟨_, operand, inside⟩
  · intro h
    obtain rfl | ⟨child, operand, inside⟩ := h
    · exact .here
    · exact .under operand inside

/-- Exactly the nodes of the pending trees are visited. -/
theorem mem_preorderFrom (visited : Array Node) (pending : List Node) :
    n ∈ preorderFrom visited pending ↔ n ∈ visited ∨ ∃ top ∈ pending, Within n top := by
  fun_induction preorderFrom visited pending with
  | case1 visited => simp
  | case2 visited node rest ih =>
    simp only [ih, Array.mem_push, mem_stacked, List.mem_cons, or_and_right, exists_or,
      exists_eq_left, within_iff node, or_assoc]

theorem mem_preorder : n ∈ root.preorder ↔ Within n root := by
  simp [preorder, mem_preorderFrom]

theorem mem_foldl_names {kind : Kind} {nodes : List Node} {names : Names} {name : String} :
    name ∈ nodes.foldl
        (fun names n => if n.kind = kind then names.insert (Text.lower n.text) else names) names ↔
      name ∈ names ∨ ∃ n ∈ nodes, n.kind = kind ∧ Text.lower n.text = name := by
  induction nodes generalizing names with
  | nil => simp
  | cons node nodes ih =>
    rw [List.foldl_cons, ih]
    by_cases hk : node.kind = kind
    · simp [hk, Std.TreeSet.mem_insert, or_assoc, or_left_comm]
    · simp [hk]

/-- The names of a kind are those of the nodes of that kind, anywhere in the tree. -/
theorem mem_namesOf {kind : Kind} {root : Node} {name : String} : name ∈ root.namesOf kind ↔
    ∃ n, Within n root ∧ n.kind = kind ∧ Text.lower n.text = name := by
  simp [namesOf, mem_foldl_names, mem_preorder]

end Node
end Formula
