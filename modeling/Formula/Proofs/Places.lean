import Formula.Proofs.WellFormed

namespace Formula

/-- Where a node stands in a tree: the operand to take at each step from the root. -/
abbrev Place := List Nat

/-- What the accessors at the places of a tree have answered. -/
abbrev Answers := Place → Option Value

/-- The answers within the tree at a place. -/
def Answers.under (answers : Answers) (place : Place) : Answers :=
  fun inside => answers (place ++ inside)

/-- Whether the value of the first operand leaves another operand out. A factor as good as zero
leaves out the other factor, and a condition one of its branches. -/
def Kind.skips (kind : Kind) (first : Value) (i : Nat) : Bool :=
  match kind, i with
  | .operator .multiply, 1 => first.toDouble.toOption.any nearZero
  | .conditional, 1 => first.toBoolean.toOption == some false
  | .conditional, 2 => first.toBoolean.toOption == some true
  | _, _ => false

namespace Node

/-- The node at a place. -/
def at? (root : Node) : Place → Option Node
  | [] => some root
  | i :: place => root.operands[i]?.bind (·.at? place)

mutual

/-- The places of all nodes: those in the operands from left to right, and then the root. -/
def places : Node → List Place
  | ⟨_, _, operands⟩ => placesFrom 0 operands ++ [[]]

/-- The places in a row of operands, of which the first is the operand `i`. -/
def placesFrom (i : Nat) : List Node → List Place
  | [] => []
  | operand :: others => operand.places.map (i :: ·) ++ placesFrom (i + 1) others

end

/-- The value of a tree whose accessors answer as given. -/
def worth (answers : Answers) : Node → Option Value
  | ⟨.number, text, []⟩ => (Value.ofNumber text).toOption
  | ⟨.identifier, _, []⟩ | ⟨.call, _, _⟩ => answers []
  | ⟨.group, _, [inner]⟩ => inner.worth (answers.under [0])
  | ⟨.sign s, _, [operand]⟩ => do (s.apply (← operand.worth (answers.under [0]))).toOption
  | ⟨.operator op, _, [left, right]⟩ => do
    let v ← left.worth (answers.under [0])
    match ← (op.settle? v).toOption with
    | some result => some result
    | none => (op.combine v (← right.worth (answers.under [1]))).toOption
  | ⟨.conditional, _, [condition, yes, no]⟩ => do
    if ← (← condition.worth (answers.under [0])).toBoolean.toOption then
      yes.worth (answers.under [1])
    else
      no.worth (answers.under [2])
  | _ => none
termination_by node => node.size
decreasing_by all_goals simp only [size_mk, sizes]; omega

/-- The values of the arguments in a list of them. -/
def rowWorth (answers : Answers) : Node → Option (List Value)
  | ⟨.arguments, _, [first, others]⟩ => do
    return (← first.worth (answers.under [0])) :: (← others.rowWorth (answers.under [1]))
  | node => do return [← node.worth answers]
termination_by node => node.size
decreasing_by simp only [size_mk, sizes]; omega

/-- The values of the arguments of a call. -/
def argumentsWorth (answers : Answers) (call : Node) : Option (List Value) :=
  match call.operands with
  | [] => some []
  | [row] => row.rowWorth (answers.under [0])
  | _ => none

/-- The operand is left out because of the value of the first one. -/
def skipped (node : Node) (answers : Answers) (i : Nat) : Bool :=
  (node.operands.head?.bind (·.worth (answers.under [0]))).any (node.kind.skips · i)

/-- The place is inside an operand that is left out. -/
def omits (root : Node) (answers : Answers) : Place → Bool
  | [] => false
  | i :: place =>
    root.skipped answers i || root.operands[i]?.any (·.omits (answers.under [i]) place)

/-- The node at a place is a variable or a call. -/
def refers (root : Node) (place : Place) : Bool :=
  (root.at? place).any (fun node => node.kind = .identifier || node.kind = .call)

/-- A variable or a call that is not left out. -/
def due (root : Node) (answers : Answers) (place : Place) : Bool :=
  root.refers place && !root.omits answers place

/-- The node at a place has a value, if it is no list of arguments. -/
def Valued (root : Node) (answers : Answers) (place : Place) : Prop :=
  ∀ node, root.at? place = some node → node.kind ≠ .arguments →
    (node.worth (answers.under place)).isSome

variable {root operand : Node} {answers : Answers} {i : Nat} {place : Place}

theorem at?_cons (h : root.operands[i]? = some operand) :
    root.at? (i :: place) = operand.at? place := by
  simp [at?, h]

theorem at?_append (place inside : Place) :
    root.at? (place ++ inside) = (root.at? place).bind (·.at? inside) := by
  induction place generalizing root with
  | nil => rfl
  | cons i place ih =>
    simp only [List.cons_append, at?]
    cases root.operands[i]? with
    | none => rfl
    | some operand => exact ih

theorem at?_operand (stands : root.at? place = some ⟨k, word, ts⟩) (ht : ts[i]? = some t) :
    root.at? (place ++ [i]) = some t := by
  rw [at?_append, stands]
  exact (at?_cons ht).trans rfl

theorem within_of_at? (h : root.at? place = some node) :
    Within node root := by
  induction place generalizing root with
  | nil =>
    cases h
    exact .here
  | cons i place ih =>
    obtain ⟨child, hchild, h⟩ := Option.bind_eq_some_iff.mp h
    exact .under (List.mem_of_getElem? hchild) (ih h)

theorem refers_cons (h : root.operands[i]? = some operand) :
    root.refers (i :: place) = operand.refers place := by
  rw [refers, at?_cons h, refers]

theorem omits_skipped (h : root.skipped answers i = true) :
    root.omits answers (i :: place) = true := by
  simp [omits, h]

theorem omits_cons (h : root.operands[i]? = some operand) (taken : root.skipped answers i = false) :
    root.omits answers (i :: place) = operand.omits (answers.under [i]) place := by
  simp [omits, h, taken]

theorem due_skipped (h : root.skipped answers i = true) :
    root.due answers (i :: place) = false := by
  simp [due, omits_skipped h]

theorem due_cons (h : root.operands[i]? = some operand) (taken : root.skipped answers i = false) :
    root.due answers (i :: place) = operand.due (answers.under [i]) place := by
  rw [due, refers_cons h, omits_cons h taken, due]

theorem valued_cons (h : root.operands[i]? = some operand) :
    root.Valued answers (i :: place) ↔ operand.Valued (answers.under [i]) place := by
  simp only [Valued, at?_cons h]
  rfl

/-- An operand is left out only if its node is, or the value of the first operand leaves it out. -/
theorem omits_snoc (h : root.at? place = some operand) : root.omits answers (place ++ [i]) =
    (root.omits answers place || operand.skipped (answers.under place) i) := by
  induction place generalizing root answers with
  | nil =>
    cases h
    have here : answers.under [] = answers := rfl
    simp [omits, here]
  | cons j place ih =>
    obtain ⟨child, hchild, h⟩ := Option.bind_eq_some_iff.mp h
    cases hs : root.skipped answers j with
    | true => simp [omits, hs]
    | false =>
      rw [List.cons_append, omits_cons hchild hs, omits_cons hchild hs, ih h]
      rfl

theorem mem_placesFrom {ts : List Node} : place ∈ placesFrom i ts ↔
    ∃ j t inside, place = (i + j) :: inside ∧ ts[j]? = some t ∧ inside ∈ t.places := by
  induction ts generalizing i with
  | nil => simp [placesFrom]
  | cons t ts ih =>
    rw [placesFrom, List.mem_append, ih]
    constructor
    · rintro (first | ⟨j, u, inside, rfl, hu, mem⟩)
      · obtain ⟨inside, mem, rfl⟩ := List.mem_map.mp first
        exact ⟨0, t, inside, rfl, rfl, mem⟩
      · exact ⟨j + 1, u, inside, by rw [Nat.add_right_comm, Nat.add_assoc], hu, mem⟩
    · rintro ⟨j, u, inside, rfl, hu, mem⟩
      cases j with
      | zero =>
        cases hu
        exact .inl (List.mem_map.mpr ⟨inside, mem, rfl⟩)
      | succ j => exact .inr ⟨j, u, inside, by rw [Nat.add_right_comm, Nat.add_assoc], hu, mem⟩

theorem places_eq (root : Node) : root.places = placesFrom 0 root.operands ++ [[]] := by
  cases root
  rfl

/-- Every node is listed. -/
theorem mem_places : place ∈ root.places ↔ (root.at? place).isSome := by
  induction place generalizing root with
  | nil => simp [places_eq, at?]
  | cons i place ih =>
    rw [places_eq, List.mem_append, mem_placesFrom]
    simp only [Nat.zero_add, List.cons.injEq, List.mem_singleton, reduceCtorEq, or_false, at?]
    constructor
    · rintro ⟨j, t, inside, ⟨rfl, rfl⟩, ht, mem⟩
      rw [ht]
      exact ih.mp mem
    · intro stands
      cases ht : root.operands[i]? with
      | none => simp [ht] at stands
      | some t =>
        rw [ht] at stands
        exact ⟨i, t, place, ⟨rfl, rfl⟩, ht, ih.mpr stands⟩

theorem nodup_placesFrom {ts : List Node} (h : ∀ t ∈ ts, t.places.Nodup) (i : Nat) :
    (placesFrom i ts).Nodup := by
  induction ts generalizing i with
  | nil => exact List.nodup_nil
  | cons t ts ih =>
    obtain ⟨first, others⟩ := List.forall_mem_cons.mp h
    have within : (t.places.map (i :: ·)).Nodup :=
      List.Pairwise.map _ (fun _ _ distinct same => distinct (List.cons.inj same).2) first
    refine List.nodup_append.mpr ⟨within, ih others _, ?_⟩
    rintro place mem other mem' rfl
    obtain ⟨inside, -, rfl⟩ := List.mem_map.mp mem
    obtain ⟨j, _, _, same, -⟩ := mem_placesFrom.mp mem'
    have heads := (List.cons.inj same).1
    omega

/-- No node is listed twice. -/
theorem nodup_places (root : Node) : root.places.Nodup := by
  induction root using Node.induction with
  | node kind text operands ih =>
    rw [places_eq]
    refine List.nodup_append.mpr ⟨nodup_placesFrom ih 0, by simp, ?_⟩
    rintro place mem other mem' rfl
    obtain ⟨_, _, _, same, -⟩ := mem_placesFrom.mp mem
    exact absurd (same.symm.trans (List.mem_singleton.mp mem')) (List.cons_ne_nil _ _)

end Node
end Formula
