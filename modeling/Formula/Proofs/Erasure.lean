import Formula.Proofs.CallText

namespace Formula
namespace Node

mutual

/-- A tree without those of its nodes that are of some kinds and have one operand each, which takes
their place. -/
def without (kinds : List Kind) : Node → Node
  | ⟨k, word, [inner]⟩ =>
    if k ∈ kinds then without kinds inner else ⟨k, word, [without kinds inner]⟩
  | ⟨k, word, operands⟩ => ⟨k, word, withoutAll kinds operands⟩

def withoutAll (kinds : List Kind) : List Node → List Node
  | [] => []
  | node :: rest => without kinds node :: withoutAll kinds rest

end

variable {kinds : List Kind} {k : Kind}

theorem withoutAll_eq_map (ts : List Node) : withoutAll kinds ts = ts.map (without kinds) := by
  induction ts with
  | nil => rfl
  | cons t ts ih => rw [withoutAll, ih, List.map_cons]

theorem without_erased (h : k ∈ kinds) (word : String) (t : Node) :
    without kinds ⟨k, word, [t]⟩ = t.without kinds := by
  rw [without, if_pos h]

theorem without_kept (h : k ∉ kinds) (word : String) (ts : List Node) :
    without kinds ⟨k, word, ts⟩ = ⟨k, word, ts.map (without kinds)⟩ := by
  unfold without
  split
  case h_1 heq =>
    cases heq
    rw [if_neg h, List.map_singleton]
  case h_2 heq =>
    cases heq
    rw [withoutAll_eq_map]

theorem without_argumentRow (h : .arguments ∉ kinds) (t : Node) (ts : List Node) :
    (argumentRow t ts).without kinds = argumentRow (t.without kinds) (ts.map (without kinds)) := by
  induction ts generalizing t with
  | nil => rfl
  | cons u us ih =>
    rw [argumentRow, operator, without_kept h, List.map_cons, List.map_singleton, ih]
    rfl

end Node

theorem Node.without_callTree {kinds : List Kind} (call : .call ∉ kinds)
    (arguments : .arguments ∉ kinds) (name : String) (ts : List Node) :
    (callTree name ts).without kinds = callTree name (ts.map (without kinds)) := by
  cases ts with
  | nil => exact without_kept call name []
  | cons t ts =>
    rw [callTree, without_kept call, List.map_singleton, without_argumentRow arguments]
    rfl

end Formula
