import Formula.Proofs.ArgumentRows
import Formula.Proofs.EvaluationFaults
import Formula.Proofs.Traversal

namespace Formula

theorem Kind.skips_zero (kind : Kind) (first : Value) : kind.skips first 0 = false := by
  cases kind with
  | operator op => cases op <;> rfl
  | _ => rfl

/-- A left operand settles an operator exactly if the right one is left out. -/
theorem Operator.skips_of_settle? {op : Operator} (h : op.settle? v = .ok settled) :
    (Kind.operator op).skips v 1 = settled.isSome := by
  cases op
  case multiply =>
    cases hx : v.toDouble with
    | error e => simp [settle?, hx, bind, Except.bind] at h
    | ok x =>
      simp only [settle?, hx, bind, Except.bind, pure, Except.pure, Except.ok.injEq] at h
      cases hz : nearZero x <;> simp [← h, Kind.skips, hx, Except.toOption, hz]
  case quotient =>
    cases hn : v.toInteger <;> simp [settle?, hn, bind, Except.bind, pure, Except.pure] at h
    simp [← h, Kind.skips]
  case and | or =>
    cases hb : v.toBoolean <;> simp [settle?, hb, bind, Except.bind, pure, Except.pure] at h
    simp [← h, Kind.skips]
  all_goals
    cases hx : v.toDouble <;> simp [settle?, hx, bind, Except.bind, pure, Except.pure] at h
    simp [← h, Kind.skips]

theorem Node.skipped_zero (root : Node) (answers : Answers) : root.skipped answers 0 = false := by
  simp [skipped, Kind.skips_zero]

/-- What is left out of the operands of `and` and `or` is left out with the node. -/
theorem Node.omits_logical {root node : Node} {answers : Answers}
    (stands : root.at? place = some node)
    (logical : node.kind = .operator .and ∨ node.kind = .operator .or) :
    root.omits answers (place ++ [i]) = root.omits answers place := by
  have taken : node.skipped (answers.under place) i = false := by
    rcases logical with hk | hk <;> simp [skipped, hk, Kind.skips]
  rw [omits_snoc stands, taken, Bool.or_false]

namespace Traversal

section

variable (host : Host V F σ) (context : Context V F)

/-- The evaluation of a tree goes from place to place and finds its value. -/
def EvalReports (root : Node) : Prop :=
  ∀ s, Reports host context root (fun answers v => root.worth answers = some v) s
    (root.eval host context s)

/-- The evaluation of a list of arguments goes from place to place and finds their values. -/
def RowReports (row : Node) : Prop :=
  ∀ s, Reports host context row (fun answers vs => row.rowWorth answers = some vs) s
    (Node.evalAll host context (Node.arguments [row]) s)

end

variable {host : Host V F σ} {context : Context V F} {word : String}
  {operand left right condition yes no row first others : Node}

theorem reports_number (h : Value.ofNumber word = .ok v) :
    EvalReports host context ⟨.number, word, []⟩ := by
  intro s
  rw [Node.eval, h]
  refine Reports.value .nil rfl rfl fun answers _ => ?_
  rw [Node.worth, h]
  rfl

theorem reports_identifier (name : String) : EvalReports host context ⟨.identifier, name, []⟩ := by
  intro s
  rw [Node.eval]
  refine Reports.reference .nil rfl rfl (fun answers => by rw [Node.worth]) ?_
  cases bound : context.getVariable? name with
  | none => exact .inl ⟨_, .variable bound, by rw [Context.read, bound]; rfl⟩
  | some handle => exact .inr fun answers _ => .read bound (by rw [Context.read, bound])

theorem reports_group (h : EvalReports host context operand) :
    EvalReports host context ⟨.group, word, [operand]⟩ := by
  intro s
  have split : Node.places ⟨.group, word, [operand]⟩ =
      [] ++ operand.places.map (0 :: ·) ++ [[]] := by simp [Node.places, Node.placesFrom]
  rw [Node.eval, ← bind_pure (operand.eval host context)]
  refine Reports.operand .nil rfl (fun _ _ => Node.skipped_zero ..) split (h s)
    fun v log s₁ through found => ?_
  refine Reports.value through split rfl fun answers agrees => ?_
  rw [Node.worth]
  exact found answers agrees

theorem reports_sign {sign : Sign} (h : EvalReports host context operand) :
    EvalReports host context ⟨.sign sign, word, [operand]⟩ := by
  intro s
  have split : Node.places ⟨.sign sign, word, [operand]⟩ =
      [] ++ operand.places.map (0 :: ·) ++ [[]] := by simp [Node.places, Node.placesFrom]
  rw [Node.eval]
  refine Reports.operand .nil rfl (fun _ _ => Node.skipped_zero ..) split (h s)
    fun v log s₁ through found => ?_
  rw [← bind_pure (Node.converted _)]
  refine Reports.converted through split
    (fun cause refused answers agrees => .sign (found answers agrees) refused) fun w applied => ?_
  refine Reports.value through split rfl fun answers agrees => ?_
  simp [Node.worth, found answers agrees, applied, Except.toOption]

theorem reports_operator {op : Operator} (hl : EvalReports host context left)
    (hr : EvalReports host context right) :
    EvalReports host context ⟨.operator op, word, [left, right]⟩ := by
  intro s
  have split : Node.places ⟨.operator op, word, [left, right]⟩ =
      [] ++ left.places.map (0 :: ·) ++ (right.places.map (1 :: ·) ++ [[]]) := by
    simp [Node.places, Node.placesFrom]
  rw [Node.eval]
  refine Reports.operand .nil rfl (fun _ _ => Node.skipped_zero ..) split (hl s)
    fun v log s₁ through found => ?_
  refine Reports.converted through split
    (fun cause refused answers agrees => .left (found answers agrees) refused)
    fun settled looked => ?_
  rw [← List.append_assoc] at split
  have skips : ∀ answers : Answers, answers.Agrees ([] ++ log.above 0) →
      Node.skipped ⟨.operator op, word, [left, right]⟩ answers 1 = settled.isSome := by
    intro answers agrees
    simp [Node.skipped, found answers agrees, Operator.skips_of_settle? looked]
  cases settled with
  | some result =>
    refine Reports.value (through.skip skips right.places) split rfl fun answers agrees => ?_
    simp [Node.worth, found answers agrees, looked, Except.toOption]
  | none =>
    refine Reports.operand through rfl skips split (hr s₁) fun w log' s₂ through' found' => ?_
    rw [← bind_pure (Node.converted _)]
    refine Reports.converted through' split (fun cause refused answers agrees =>
      .right (found answers agrees.left) looked (found' answers agrees) refused)
      fun result combined => ?_
    refine Reports.value through' split rfl fun answers agrees => ?_
    simp [Node.worth, found answers agrees.left, found' answers agrees, looked, combined,
      Except.toOption]

theorem reports_conditional (hc : EvalReports host context condition)
    (hy : EvalReports host context yes) (hn : EvalReports host context no) :
    EvalReports host context ⟨.conditional, word, [condition, yes, no]⟩ := by
  intro s
  have split : Node.places ⟨.conditional, word, [condition, yes, no]⟩ =
      [] ++ condition.places.map (0 :: ·) ++
        (yes.places.map (1 :: ·) ++ (no.places.map (2 :: ·) ++ [[]])) := by
    simp [Node.places, Node.placesFrom]
  rw [Node.eval]
  refine Reports.operand .nil rfl (fun _ _ => Node.skipped_zero ..) split (hc s)
    fun v log s₁ through found => ?_
  refine Reports.converted through split
    (fun cause refused answers agrees => .condition (found answers agrees) refused)
    fun b decided => ?_
  rw [← List.append_assoc] at split
  have skips : ∀ i, ∀ answers : Answers, answers.Agrees ([] ++ log.above 0) →
      Node.skipped ⟨.conditional, word, [condition, yes, no]⟩ answers i =
        Kind.conditional.skips v i := by
    intro i answers agrees
    simp [Node.skipped, found answers agrees]
  cases b with
  | true =>
    have taken : Kind.conditional.skips v 1 = false := by
      simp [Kind.skips, decided, Except.toOption]
    have left : Kind.conditional.skips v 2 = true := by
      simp [Kind.skips, decided, Except.toOption]
    rw [if_pos rfl, ← bind_pure (yes.eval host context)]
    refine Reports.operand through rfl (fun answers agrees => (skips 1 answers agrees).trans taken)
      split (hy s₁) fun w log' s₂ through' found' => ?_
    rw [← List.append_assoc] at split
    refine Reports.value (through'.skip
      (fun answers agrees => (skips 2 answers agrees.left).trans left) no.places) split rfl
      fun answers agrees => ?_
    simp [Node.worth, found answers agrees.left, found' answers agrees, decided, Except.toOption]
  | false =>
    have left : Kind.conditional.skips v 1 = true := by
      simp [Kind.skips, decided, Except.toOption]
    have taken : Kind.conditional.skips v 2 = false := by
      simp [Kind.skips, decided, Except.toOption]
    rw [if_neg Bool.false_ne_true, ← bind_pure (no.eval host context)]
    rw [← List.append_assoc] at split
    refine Reports.operand (through.skip
      (fun answers agrees => (skips 1 answers agrees).trans left) yes.places) rfl
      (fun answers agrees => (skips 2 answers agrees).trans taken) split (hn s₁)
      fun w log' s₂ through' found' => ?_
    refine Reports.value through' split rfl fun answers agrees => ?_
    simp [Node.worth, found answers agrees.left, found' answers agrees, decided, Except.toOption]

/-- A call runs its accessor once all its arguments have been evaluated. -/
theorem reports_access {name : String} {operands : List Node} {done : List Place} {log : Log}
    (through : Through host context ⟨.call, name, operands⟩ s done log s₁)
    (split : Node.places ⟨.call, name, operands⟩ = done ++ [[]])
    (given : ∀ answers : Answers, answers.Agrees log →
      Node.argumentsWorth answers ⟨.call, name, operands⟩ = some vs) :
    Reports host context ⟨.call, name, operands⟩
      (fun answers v => Node.worth answers ⟨.call, name, operands⟩ = some v) s
      (context.call host name vs s₁) := by
  refine Reports.reference through split rfl (fun answers => by rw [Node.worth]) ?_
  cases bound : context.getFunction? name with
  | none => exact .inl ⟨_, .function bound, by rw [Context.call, bound]; rfl⟩
  | some handle =>
    exact .inr fun answers agrees =>
      .call bound (given answers agrees) (by rw [Context.call, bound])

theorem reports_emptyCall (name : String) : EvalReports host context ⟨.call, name, []⟩ := by
  intro s
  rw [Node.eval, Node.arguments_nil, Node.evalAll]
  exact reports_access .nil rfl fun answers _ => rfl

theorem reports_call {name : String} (h : RowReports host context row) :
    EvalReports host context ⟨.call, name, [row]⟩ := by
  intro s
  have split : Node.places ⟨.call, name, [row]⟩ = [] ++ row.places.map (0 :: ·) ++ [[]] := by
    simp [Node.places, Node.placesFrom]
  rw [Node.eval]
  exact Reports.operand .nil rfl (fun _ _ => Node.skipped_zero ..) split (h s)
    fun vs log s₁ through found => reports_access through split found

theorem reports_single (single : row.kind ≠ .arguments) (h : EvalReports host context row) :
    RowReports host context row := by
  intro s
  rw [Node.arguments_single (Node.isPair_of_kind single), Node.evalAll_cons, Node.evalAll]
  simp only [pure_bind]
  refine Reports.map (fun v => [v]) (h s) fun answers v found => ?_
  rw [Node.rowWorth, found]
  · rfl
  · rintro word first others rfl
    exact single rfl

theorem reports_row (single : first.kind ≠ .arguments) (h : EvalReports host context first)
    (h' : RowReports host context others) :
    RowReports host context ⟨.arguments, word, [first, others]⟩ := by
  intro s
  have split : Node.places ⟨.arguments, word, [first, others]⟩ =
      [] ++ first.places.map (0 :: ·) ++ (others.places.map (1 :: ·) ++ [[]]) := by
    simp [Node.places, Node.placesFrom]
  rw [Node.arguments_pair (Node.isPair_of_kind single), Node.evalAll_cons]
  refine Reports.operand .nil rfl (fun _ _ => Node.skipped_zero ..) split (h s)
    fun v log s₁ through found => ?_
  rw [← List.append_assoc] at split
  refine Reports.operand through rfl ?_ split (h' s₁) fun vs log' s₂ through' found' => ?_
  · intro answers _
    cases hf : first.worth (answers.under [0]) <;> simp [Node.skipped, Kind.skips, hf]
  · refine Reports.list through' split rfl fun answers agrees => ?_
    simp [Node.rowWorth, found answers agrees.left, found' answers agrees]

/-- The induction is on the size of the tree, over trees of both sorts: those with a value, and
lists of arguments, which stand below a call or another list. -/
theorem reports_eval (host : Host V F σ) (context : Context V F) (n : Nat) :
    ∀ root : Node, root.size = n →
    (root.WellFormed → EvalReports host context root) ∧
    ((∀ node, Node.Within node root → node.Sound) → RowReports host context root) := by
  induction n using Nat.strongRecOn with
  | _ n ih =>
    rintro ⟨k, word, operands⟩ rfl
    have smaller : ∀ t ∈ operands, t.size < Node.size ⟨k, word, operands⟩ := by
      intro t mem
      exact Node.size_lt mem
    have evaluated : Node.WellFormed ⟨k, word, operands⟩ →
        EvalReports host context ⟨k, word, operands⟩ := by
      intro formed
      have sound := formed.sound _ .here
      have operand : k ≠ .call → ∀ t ∈ operands, EvalReports host context t :=
        fun hk t mem => (ih t.size (smaller t mem) t rfl).1 (formed.operand hk mem)
      cases k with
      | number =>
        obtain rfl := List.length_eq_zero_iff.mp (sound.arity 0 rfl)
        obtain ⟨v, hv⟩ := sound.number rfl
        exact reports_number hv
      | identifier =>
        obtain rfl := List.length_eq_zero_iff.mp (sound.arity 0 rfl)
        exact reports_identifier word
      | call =>
        rcases operands with _ | ⟨row, _ | ⟨other, operands⟩⟩
        · exact reports_emptyCall word
        · refine reports_call ((ih row.size (smaller row (by simp)) row rfl).2 ?_)
          exact fun node inside => formed.sound node (.under (by simp) inside)
        · simpa using sound.call rfl
      | arguments => exact absurd rfl formed.single
      | group =>
        obtain ⟨inner, rfl⟩ := List.length_eq_one_iff.mp (sound.arity 1 rfl)
        exact reports_group (operand (by simp) inner (by simp))
      | sign sign =>
        obtain ⟨inner, rfl⟩ := List.length_eq_one_iff.mp (sound.arity 1 rfl)
        exact reports_sign (operand (by simp) inner (by simp))
      | operator op =>
        obtain ⟨left, right, rfl⟩ := List.length_eq_two.mp (sound.arity 2 rfl)
        exact reports_operator (operand (by simp) left (by simp))
          (operand (by simp) right (by simp))
      | conditional =>
        obtain ⟨condition, yes, no, rfl⟩ := List.length_eq_three.mp (sound.arity 3 rfl)
        exact reports_conditional (operand (by simp) condition (by simp))
          (operand (by simp) yes (by simp)) (operand (by simp) no (by simp))
    refine ⟨evaluated, fun sound => ?_⟩
    by_cases single : k ≠ .arguments
    · exact reports_single single (evaluated ⟨single, sound⟩)
    · obtain rfl := not_not.mp single
      obtain ⟨first, others, rfl⟩ := List.length_eq_two.mp ((sound _ .here).arity 2 rfl)
      have alone : first.kind ≠ .arguments := by
        intro hk
        simpa using (sound _ .here).arguments 0 first rfl hk
      refine reports_row alone ((ih first.size (smaller first (by simp)) first rfl).1 ⟨alone, ?_⟩)
        ((ih others.size (smaller others (by simp)) others rfl).2 ?_)
      · exact fun node inside => sound node (.under (by simp) inside)
      · exact fun node inside => sound node (.under (by simp) inside)

end Traversal

namespace Builder

/-- The accessors of a parsed expression run in the order of the nodes, operands from left to right
and each node after its operands. What is left out is in the right operand of a product whose left
operand is as good as zero, in the branch that a condition does not choose, or behind the first
failure, and each accessor starts from the state that the one before it leaves behind. Operands of
`and` and `or` are left out only together with their node. The state is any, so also a record of
the runs. -/
theorem parse_eval_order (builder : Builder V F) (text : String) (root : Node)
    (own : Context V F) (parsed : builder.parse text = .ok ⟨root, own⟩) :
    (root.places.Nodup ∧ ∀ place, place ∈ root.places ↔ (root.at? place).isSome) ∧
    ∀ (σ : Type) (host : Host V F σ) (context : Context V F) (s : σ),
      ∃ (done rest : List Place) (log : Log) (s₁ : σ), root.places = done ++ rest ∧
        log.map Prod.fst = done.filter (root.due (.ofLog log)) ∧
        Traversal.Chain host context root (.ofLog log) s log s₁ ∧
        (∀ place ∈ done, root.omits (.ofLog log) place = false → root.Valued (.ofLog log) place) ∧
        (∀ place node i, root.at? place = some node →
          node.kind = .operator .and ∨ node.kind = .operator .or →
          root.omits (.ofLog log) (place ++ [i]) = root.omits (.ofLog log) place) ∧
        ((rest = [] ∧ ∃ v, root.worth (.ofLog log) = some v ∧
            root.eval host context s = .ok v s₁) ∨
          ∃ e s', root.eval host context s = .error e s' ∧
            Traversal.Stops host context root (.ofLog log) done rest s₁ e s') := by
  refine ⟨⟨Node.nodup_places _, fun place => Node.mem_places⟩, fun σ host context s => ?_⟩
  have reports := (Traversal.reports_eval host context _ root rfl).1 (parse_wellFormed parsed) s
  have once := Node.nodup_places root
  generalize root.eval host context s = result at reports
  cases reports with
  | @finished log s' v through found =>
    have agrees := Answers.agrees_ofLog (once.sublist through.listed)
    exact ⟨_, [], log, s', (List.append_nil _).symm, through.order _ agrees, through.chain _ agrees,
      through.valued _ agrees, fun _ _ _ => Node.omits_logical,
      .inl ⟨rfl, v, found _ agrees, rfl⟩⟩
  | @stopped done rest log s₁ e s' split through stops =>
    have agrees := Answers.agrees_ofLog
      ((split ▸ once).sublist (through.listed.trans (List.sublist_append_left ..)))
    exact ⟨done, rest, log, s₁, split, through.order _ agrees, through.chain _ agrees,
      through.valued _ agrees, fun _ _ _ => Node.omits_logical,
      .inr ⟨e, s', rfl, stops _ agrees⟩⟩

/-- Handles that keep a record of their runs. -/
def recording : Host String String (List String) where
  readVariable name _ := fun runs => .ok (.boolean true) (runs ++ [name])
  callFunction name _ _ := fun runs => .ok (.boolean true) (runs ++ [name])

def recordedContext : Context String String :=
  ((empty.context.change (.setVariable "x" "x")).change (.setVariable "y" "y")).change
    (.setFunction "f" "f")

def recordedTree : Node :=
  .operator .conditional [.operator (.operator .or) [.leaf .identifier "x", .leaf .identifier "y"],
    ⟨.call, "f", [.leaf .identifier "y"]⟩, .leaf .identifier "z"]

theorem eval_recordedTree : recordedTree.eval recording recordedContext [] =
    .ok (.boolean true) ["x", "y", "y", "f"] := by
  cbv

/-- Both operands of the condition are evaluated, and only the branch that is chosen. -/
theorem parse_eval_order_recorded :
    (empty : Builder String String).parse "x||y?f(y):z" = .ok ⟨recordedTree, empty.context⟩ ∧
    ∃ log s₁, log.map Prod.fst = recordedTree.places.filter (recordedTree.due (.ofLog log)) ∧
      Traversal.Chain recording recordedContext recordedTree (.ofLog log) [] log s₁ ∧
      s₁ = ["x", "y", "y", "f"] := by
  have parsed : (empty : Builder String String).parse "x||y?f(y):z" =
      .ok ⟨recordedTree, empty.context⟩ := by cbv
  obtain ⟨done, rest, log, s₁, split, order, chain, -, -, outcome⟩ :=
    (parse_eval_order empty _ _ _ parsed).2 _ recording recordedContext []
  rcases outcome with ⟨rfl, v, -, finished⟩ | ⟨e, s', failed, -⟩
  · rw [List.append_nil] at split
    rw [split]
    cases eval_recordedTree.symm.trans finished
    exact ⟨parsed, log, _, order, chain, rfl⟩
  · cases eval_recordedTree.symm.trans failed

end Builder
end Formula
