import Formula.Proofs.Grammar

namespace Formula
namespace Node

mutual

/-- How deep an expression is nested. Brackets, signs and calls add a level to what they hold, an
operator that groups to the right adds one to its right operand, and a conditional adds one to its
choices. Operators that group to the left and rows of arguments add none. -/
def nesting : Node → Nat
  | ⟨.number, _, _⟩ | ⟨.identifier, _, _⟩ | ⟨.call, _, []⟩ => 0
  | ⟨.call, _, operands⟩ | ⟨.group, _, operands⟩ | ⟨.sign _, _, operands⟩ => 1 + nestings operands
  | ⟨.arguments, _, operands⟩ => nestings operands
  | ⟨.operator op, _, [left, right]⟩ =>
    if op.rank.groupsLeft then max left.nesting right.nesting
    else max left.nesting (1 + right.nesting)
  | ⟨.conditional, _, [condition, yes, no]⟩ =>
    max condition.nesting (max (1 + yes.nesting) (1 + no.nesting))
  | _ => 0

/-- The deepest nesting in several trees. -/
def nestings : List Node → Nat
  | [] => 0
  | node :: rest => max node.nesting (nestings rest)

end

@[simp] theorem nesting_number : (leaf .number word).nesting = 0 := rfl

@[simp] theorem nesting_identifier : (leaf .identifier name).nesting = 0 := rfl

@[simp] theorem nesting_emptyCall : (leaf .call name).nesting = 0 := rfl

theorem nestings_single (t : Node) : nestings [t] = t.nesting :=
  Nat.max_zero t.nesting

@[simp] theorem nesting_call : nesting ⟨.call, name, [t]⟩ = 1 + t.nesting :=
  congrArg (1 + ·) (nestings_single t)

@[simp] theorem nesting_group : (operator .group [t]).nesting = 1 + t.nesting :=
  congrArg (1 + ·) (nestings_single t)

@[simp] theorem nesting_sign : (operator (.sign s) [t]).nesting = 1 + t.nesting :=
  congrArg (1 + ·) (nestings_single t)

@[simp] theorem nesting_arguments :
    (operator .arguments [t, u]).nesting = max t.nesting u.nesting :=
  congrArg (max t.nesting) (nestings_single u)

@[simp] theorem nesting_conditional : (operator .conditional [c, y, n]).nesting =
    max c.nesting (max (1 + y.nesting) (1 + n.nesting)) := rfl

theorem nesting_operator {op : Operator} : (operator (.operator op) [t, u]).nesting =
    max t.nesting (if op.rank.groupsLeft then u.nesting else 1 + u.nesting) := by
  by_cases h : op.rank.groupsLeft <;> simp [operator, nesting, h]

theorem nesting_right_le {op : Operator} :
    u.nesting ≤ (operator (.operator op) [t, u]).nesting := by
  rw [nesting_operator]
  split <;> omega

end Node

/-- An operand that is joined to others is nested no deeper than all of them. -/
theorem Derives.joined_nesting (h : Derives (.joined r t) ts next u) : t.nesting ≤ u.nesting := by
  generalize hφ : Phrase.joined r t = φ at h
  induction h generalizing t with
  | joinedNone =>
    cases hφ
    exact Nat.le_refl _
  | joinedMore op level operand others _ ih =>
    cases hφ
    have h := ih rfl
    rw [Node.nesting_operator] at h
    omega
  | _ => cases hφ

theorem Derives.further_nesting (h : Derives (.further t) ts next u) : t.nesting ≤ u.nesting := by
  cases h with
  | furtherNone => exact Nat.le_refl _
  | furtherMore others =>
    rw [Node.nesting_arguments]
    omega

/-- How deep that is nested which a phrase holds already. -/
def Phrase.held : Phrase → Nat
  | .joined _ left => left.nesting
  | .further first => first.nesting
  | _ => 0

theorem Phrase.held_operand (r : Rank) : r.operand.held = 0 := by
  cases r <;> rfl

/-- Every level of nesting takes a token. -/
theorem Derives.nesting_le (h : Derives φ ts next t) : t.nesting ≤ max φ.held ts.length := by
  induction h with
  | number | identifier _ | emptyCall => simp
  | call _ ih | group b _ ih | sign s _ ih =>
    simp only [Node.nesting_call, Node.nesting_group, Node.nesting_sign, Phrase.held,
      List.length_cons, List.length_append] at ih ⊢
    omega
  | unsigned _ ih | unconditional _ ih => exact ih
  | operand _ _ ih =>
    rw [Phrase.held_operand] at ih
    exact ih
  | rightward op level right _ _ ih ih' =>
    rw [Phrase.held_operand] at ih
    rw [Node.nesting_operator, level, right]
    simp only [Bool.false_eq_true, ↓reduceIte, Phrase.held, List.length_append,
      List.length_cons] at ih ih' ⊢
    omega
  | leftward _ _ _ ih ih' =>
    rw [Phrase.held_operand] at ih
    simp only [Phrase.held, List.length_append] at ih ih' ⊢
    omega
  | conditional _ _ _ ih ih' ih'' =>
    simp only [Node.nesting_conditional, Phrase.held, List.length_append, List.length_cons]
      at ih ih' ih'' ⊢
    omega
  | joinedNone | furtherNone => exact Nat.le_max_left _ _
  | joinedMore op level _ _ ih ih' =>
    rw [Phrase.held_operand] at ih
    simp only [Phrase.held, Node.nesting_operator, List.length_append, List.length_cons]
      at ih ih' ⊢
    split at ih' <;> omega
  | arguments _ _ ih ih' =>
    simp only [Phrase.held, List.length_append] at ih ih' ⊢
    omega
  | furtherMore _ ih =>
    simp only [Node.nesting_arguments, Phrase.held, List.length_cons] at ih ⊢
    omega

end Formula
