import Formula.Proofs.Nesting
import Formula.Proofs.Replacement

namespace Formula
namespace Node

mutual

/-- A tree with another one, in brackets, in place of each variable of a name. -/
def fill (node : Node) (x : String) (u : Node) : Node :=
  match node with
  | ⟨.identifier, name, []⟩ =>
    if Text.lower name = Text.lower x then .operator .group [u] else .leaf .identifier name
  | ⟨k, word, operands⟩ => ⟨k, word, fillAll operands x u⟩

def fillAll (nodes : List Node) (x : String) (u : Node) : List Node :=
  match nodes with
  | [] => []
  | node :: rest => node.fill x u :: fillAll rest x u

end

variable {x : String} {u : Node}

theorem fill_variable (h : Text.lower name = Text.lower x) :
    (leaf .identifier name).fill x u = operator .group [u] :=
  if_pos h

theorem fill_other (h : Text.lower name ≠ Text.lower x) :
    (leaf .identifier name).fill x u = leaf .identifier name :=
  if_neg h

/-- Other nodes stay, over what is filled in below them. -/
theorem fill_of_ne (h : ¬ (k = .identifier ∧ ts = [])) (word : String) :
    fill ⟨k, word, ts⟩ x u = ⟨k, word, fillAll ts x u⟩ := by
  unfold fill
  split
  case h_1 heq =>
    cases heq
    exact absurd ⟨rfl, rfl⟩ h
  case h_2 heq =>
    cases heq
    rfl

mutual

/-- What is filled in is nested by its own depth deeper, and by one for the brackets. -/
theorem nesting_fill_le : (t : Node) → (t.fill x u).nesting ≤ t.nesting + (1 + u.nesting)
  | ⟨.identifier, name, []⟩ => by
    by_cases h : Text.lower name = Text.lower x
    · have hfill : fill ⟨.identifier, name, []⟩ x u = operator .group [u] := fill_variable h
      rw [hfill, nesting_group]
      omega
    · have hfill : fill ⟨.identifier, name, []⟩ x u = leaf .identifier name := fill_other h
      rw [hfill, nesting_identifier]
      omega
  | ⟨.number, word, ts⟩ | ⟨.identifier, name, t :: ts⟩ | ⟨.call, name, []⟩ => Nat.zero_le _
  | ⟨.call, name, t :: ts⟩ => by
    have hle := nestings_fillAll_le (t :: ts)
    have hcall : (fill ⟨.call, name, t :: ts⟩ x u).nesting =
        1 + nestings (fillAll (t :: ts) x u) := rfl
    have hcall' : nesting ⟨.call, name, t :: ts⟩ = 1 + nestings (t :: ts) := rfl
    omega
  | ⟨.group, word, ts⟩ | ⟨.sign s, word, ts⟩ => by
    have hle := nestings_fillAll_le ts
    simp only [fill, nesting]
    omega
  | ⟨.arguments, word, ts⟩ => nestings_fillAll_le ts
  | ⟨.operator op, word, [l, r]⟩ => by
    have hl := nesting_fill_le l
    have hr := nesting_fill_le r
    simp only [fill, fillAll, nesting]
    split <;> omega
  | ⟨.operator op, word, []⟩ | ⟨.operator op, word, [_]⟩ | ⟨.operator op, word, _ :: _ :: _ :: _⟩ =>
    Nat.zero_le _
  | ⟨.conditional, word, [c, y, n]⟩ => by
    have hc := nesting_fill_le c
    have hy := nesting_fill_le y
    have hn := nesting_fill_le n
    simp only [fill, fillAll, nesting]
    omega
  | ⟨.conditional, word, []⟩ | ⟨.conditional, word, [_]⟩ | ⟨.conditional, word, [_, _]⟩
  | ⟨.conditional, word, _ :: _ :: _ :: _ :: _⟩ => Nat.zero_le _

theorem nestings_fillAll_le : (ts : List Node) →
    nestings (fillAll ts x u) ≤ nestings ts + (1 + u.nesting)
  | [] => by simp [fillAll, nestings]
  | t :: ts => by
    have := nesting_fill_le t
    have := nestings_fillAll_le ts
    simp only [fillAll, nestings]
    omega

end

theorem forall₂_fillAll {R : Node → Node → Prop} {ts : List Node}
    (h : ∀ t ∈ ts, R (t.fill x u) t) : List.Forall₂ R (fillAll ts x u) ts := by
  induction ts with
  | nil => exact .nil
  | cons t ts ih =>
    obtain ⟨first, others⟩ := List.forall_mem_cons.mp h
    exact .cons first (ih others)

variable {host : Host V F σ} {c c' : Context V F}

/-- Filling in a tree that comes to a value is as good as binding the variable to the value. -/
theorem alike_fill (value : eval host c u = pure v)
    (bound : ∀ name, Text.lower name = Text.lower x → c'.read host name = pure v)
    (read : ∀ name, Text.lower name ≠ Text.lower x → c.read host name = c'.read host name)
    (call : ∀ name, c.call host name = c'.call host name) :
    Alike host c c' (t.fill x u) t := by
  induction t using Node.induction with
  | node k word operands ih =>
    have below : List.Forall₂ (Alike host c c') (fillAll operands x u) operands :=
      forall₂_fillAll ih
    by_cases variable_here : k = .identifier ∧ operands = []
    · obtain ⟨rfl, rfl⟩ := variable_here
      by_cases h : Text.lower word = Text.lower x
      · have hfill : fill ⟨.identifier, word, []⟩ x u = operator .group [u] := fill_variable h
        rw [hfill]
        apply Alike.given rfl rfl
        rw [operator, eval, eval, value, bound word h]
      · have hfill : fill ⟨.identifier, word, []⟩ x u = leaf .identifier word := fill_other h
        rw [hfill]
        exact .node (fun _ _ => read word h) (by simp) .nil
    · rw [fill_of_ne variable_here]
      refine .node ?_ (fun _ => call word) below
      intro hk hnil
      rw [hnil] at below
      exact absurd ⟨hk, List.forall₂_nil_left_iff.mp below⟩ variable_here

end Node
end Formula
