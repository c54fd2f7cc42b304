import Formula.Proofs.NameLists
import Formula.Proofs.Places

namespace Formula
namespace Node

/-- The nodes at all places of a tree. -/
def standing (root : Node) : List (Option Node) :=
  root.places.map root.at?

/-- At the places that lead through the operands behind some others stand the nodes of these
operands. -/
theorem map_at?_placesFrom {root : Node} {before ts : List Node}
    (h : root.operands = before ++ ts) :
    (placesFrom before.length ts).map root.at? = ts.flatMap standing := by
  induction ts generalizing before with
  | nil => rfl
  | cons t ts ih =>
    have first : root.operands[before.length]? = some t := by simp [h]
    have inside : root.at? ∘ (before.length :: ·) = t.at? := funext fun _ => at?_cons first
    have others := @ih (before ++ [t]) (by simp [h])
    rw [List.length_append, List.length_singleton] at others
    rw [placesFrom, List.map_append, List.map_map, inside, others, List.flatMap_cons, standing]

theorem standing_eq (root : Node) :
    root.standing = root.operands.flatMap standing ++ [some root] := by
  rw [standing, places_eq, List.map_append]
  exact congrArg (· ++ [some root]) (map_at?_placesFrom (List.nil_append _).symm)

theorem stacked_perm (row stack : List Node) : (stacked row stack).Perm (row ++ stack) :=
  (List.reverse_perm row).append_right stack

/-- A visit moves a node from the pending trees to those visited. Together they stay the same, in
whatever order the operands are put on the stack. -/
theorem preorderFrom_perm (visited : Array Node) (pending : List Node) :
    ((preorderFrom visited pending).toList.map some).Perm
      (visited.toList.map some ++ pending.flatMap standing) := by
  fun_induction preorderFrom visited pending with
  | case1 visited => simp
  | case2 visited node rest ih =>
    refine ih.trans ?_
    rw [Array.toList_push, List.map_append, List.append_assoc, List.flatMap_cons, standing_eq node]
    refine List.Perm.append_left _ ?_
    have below : ((stacked node.operands rest).flatMap standing).Perm
        (node.operands.flatMap standing ++ rest.flatMap standing) := by
      rw [← List.flatMap_append]
      exact (stacked_perm _ _).flatMap_right _
    refine (List.Perm.cons (some node) below).trans ?_
    rw [List.append_assoc]
    exact List.perm_middle.symm

/-- The node at every place is visited once. -/
theorem preorder_perm (root : Node) : (root.preorder.map some).Perm (root.places.map root.at?) := by
  have h := preorderFrom_perm #[] [root]
  rwa [List.flatMap_singleton] at h

theorem size_preorderFrom (visited : Array Node) (pending : List Node) :
    (preorderFrom visited pending).size = visited.size + sizes pending := by
  fun_induction preorderFrom visited pending with
  | case1 visited => rfl
  | case2 visited node rest ih =>
    rw [ih, sizes_stacked, Array.size_push, sizes, size_eq]
    omega

theorem count_eq_size (root : Node) : root.count = root.size := by
  rw [count, preorder, Array.length_toList, size_preorderFrom]
  simp [sizes]

theorem sameRows_iff (xs ys : List Node) : sameRows xs ys = true ↔ xs = ys := by
  fun_induction sameRows xs ys with
  | case1 => simp
  | case2 x xs y ys heads ih =>
    obtain ⟨kind, text, many⟩ := heads
    have node : x = y ↔ x.operands = y.operands := by
      obtain ⟨k, word, ts⟩ := x
      obtain ⟨k', word', us⟩ := y
      cases kind
      cases text
      simp
    rw [ih, List.cons.injEq, node]
    constructor
    · intro h
      exact List.append_inj h many
    · rintro ⟨operands, others⟩
      rw [operands, others]
  | case3 x xs y ys heads =>
    simp only [Bool.false_eq_true, List.cons.injEq, false_iff]
    rintro ⟨rfl, -⟩
    exact heads ⟨rfl, rfl, rfl⟩
  | case4 xs ys empty cons =>
    simp only [Bool.false_eq_true, false_iff]
    rintro rfl
    cases xs with
    | nil => exact empty rfl rfl
    | cons x xs => exact cons x xs x xs rfl rfl

/-- Trees are found to be the same only if they are. -/
theorem same_iff {x y : Node} : x.same y = true ↔ x = y := by
  rw [same, sameRows_iff, List.cons.injEq, and_iff_left rfl]

end Node
end Formula
