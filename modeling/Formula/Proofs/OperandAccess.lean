import Formula.Proofs.Comparison
import Formula.Proofs.Places

namespace Formula

/-- The errors about nodes with too few or too many operands. -/
def EvalError.Internal : EvalError → Prop
  | .operandCount .. | .unexpectedOperands .. => True
  | _ => False

/-- How a walk over a tree ends without a value. -/
inductive Halt where
  /-- An operand has been asked for that is not there. -/
  | missing
  /-- An accessor has failed. -/
  | accessor (e : EvalError)
  /-- The node that the walk is at has failed. -/
  | node (e : EvalError)

/-- An evaluation that lists the places it comes to. -/
abbrev Walk (σ α : Type) := EStateM Halt (σ × List Place) α

namespace Walk

/-- Comes to a node and looks at the number of its operands. -/
def enter (place : Place) (node : Node) : Walk σ Unit := fun (s, reached) =>
  match node.kind.arity with
  | none => .ok () (s, reached ++ [place])
  | some n =>
    if node.operands.length = n then .ok () (s, reached ++ [place])
    else .error (.node (.malformed node.kind n node.operands.length)) (s, reached ++ [place])

def converted (result : Except ConversionError α) : Walk σ α :=
  match result with
  | .ok a => pure a
  | .error cause => throw (.node (.conversion cause))

/-- Runs an accessor. -/
def access (run : EStateM EvalError σ α) : Walk σ α := fun (s, reached) =>
  match run s with
  | .ok a s' => .ok a (s', reached)
  | .error e s' => .error (.accessor e) (s', reached)

section

variable (host : Host V F σ) (context : Context V F)

def read (name : String) : Walk σ Value :=
  match context.getVariable? name with
  | some handle => access (host.readVariable handle context)
  | none => throw (.node (.undefinedVariable name))

def call (name : String) (arguments : List Value) : Walk σ Value :=
  match context.getFunction? name with
  | some handle => access (host.callFunction handle context arguments)
  | none => throw (.node (.undefinedFunction name))

end

end Walk

namespace Node

/-- The operands of a node with their places. -/
def placed (place : Place) (node : Node) : List (Place × Node) :=
  node.operands.zipIdx.map (fun (operand, i) => (place ++ [i], operand))

theorem map_placed (place : Place) (node : Node) :
    (node.placed place).map Prod.snd = node.operands := by
  simp only [placed, List.map_map, Function.comp_def]
  exact List.zipIdx_map_fst ..

section

variable (host : Host V F σ) (context : Context V F)

mutual

/-- Evaluates a tree and keeps a record of the nodes in the order in which it comes to them.
Operands are looked up by their number, which nothing keeps from being too large. -/
def walk (place : Place) (node : Node) : Walk σ Value := do
  Walk.enter place node
  match node.kind with
  | .number => Walk.converted (Value.ofNumber node.text)
  | .identifier => Walk.read host context node.text
  | .call => do Walk.call host context node.text (← walkArguments (node.placed place))
  | .arguments => throw (.node .unexpectedComma)
  | .group => walkOperand place node 0
  | .sign s => do Walk.converted (s.apply (← walkOperand place node 0))
  | .operator op => do
    let v ← walkOperand place node 0
    match ← Walk.converted (op.settle? v) with
    | some result => return result
    | none => Walk.converted (op.combine v (← walkOperand place node 1))
  | .conditional => do
    if ← Walk.converted (← walkOperand place node 0).toBoolean then walkOperand place node 1
    else walkOperand place node 2
termination_by 2 * node.size + 1
decreasing_by
  all_goals try rw [map_placed]
  all_goals have := size_eq node; omega

def walkOperand (place : Place) (node : Node) (i : Nat) : Walk σ Value :=
  match _ : node.operands[i]? with
  | some operand => walk (place ++ [i]) operand
  | none => throw .missing
termination_by 2 * node.size
decreasing_by
  have := size_lt (List.mem_of_getElem? ‹_›)
  omega

/-- Takes the nodes of a queue from the front, evaluates them and puts the operands of lists of
arguments at the end. -/
def walkArguments : List (Place × Node) → Walk σ (List Value)
  | [] => return []
  | (place, node) :: rest =>
    if node.kind = .arguments then do
      Walk.enter place node
      walkArguments (rest ++ node.placed place)
    else do
      return (← walk place node) :: (← walkArguments rest)
termination_by queue => 2 * sizes (queue.map Prod.snd) + 2
decreasing_by
  all_goals simp only [List.map_append, map_placed, sizes_append, List.map_cons, sizes]
  all_goals have := size_eq node; omega

end

end

/-- A node has the operands that its kind wants. -/
def Fits (node : Node) : Prop :=
  ∀ n, node.kind.arity = some n → node.operands.length = n

/-- There are nodes at some places, and each has the operands that its kind wants. -/
def Fitting (root : Node) (places : List Place) : Prop :=
  ∀ place ∈ places, ∃ node, root.at? place = some node ∧ node.Fits

/-- The node at a place has too few or too many operands, and the error tells its kind, how many it
wants and how many it has. -/
inductive Misfit (root : Node) (place : Place) : EvalError → Prop where
  | unexpected (stands : root.at? place = some node) (arity : node.kind.arity = some 0)
      (many : node.operands.length ≠ 0) :
      Misfit root place (.unexpectedOperands node.kind node.operands.length)
  | count (stands : root.at? place = some node) (arity : node.kind.arity = some (n + 1))
      (many : node.operands.length ≠ n + 1) :
      Misfit root place (.operandCount node.kind (n + 1) node.operands.length)

section

variable (host : Host V F σ) (context : Context V F)

/-- The accessor that the name of a node is bound to returns an error. -/
inductive Returns : Node → EvalError → σ → Prop where
  | read (bound : context.getVariable? name = some handle)
      (run : host.readVariable handle context s = .error e s') :
      Returns ⟨.identifier, name, []⟩ e s'
  | call (bound : context.getFunction? name = some handle)
      (run : host.callFunction handle context values s = .error e s') :
      Returns ⟨.call, name, ts⟩ e s'

/-- What a walk that had come to the places `before` comes to, beside what the evaluation does. The
last place is that of a node with a wrong number of operands, if there is one. -/
inductive Tells (root : Node) (before : List Place) :
    EStateM.Result Halt (σ × List Place) α → EStateM.Result EvalError σ α → Prop where
  | value (came : reached = before ++ more) (fitting : Fitting root more) :
      Tells root before (.ok a (s, reached)) (.ok a s)
  | accessor (came : reached = before ++ more) (fitting : Fitting root more)
      (stands : root.at? place = some node) (returns : Returns host context node e s) :
      Tells root before (.error (.accessor e) (s, reached)) (.error e s)
  | node (came : reached = before ++ more) (fitting : Fitting root more) (other : ¬ e.Internal) :
      Tells root before (.error (.node e) (s, reached)) (.error e s)
  | misfit (came : reached = before ++ (more ++ [place])) (fitting : Fitting root more)
      (misfit : Misfit root place e) :
      Tells root before (.error (.node e) (s, reached)) (.error e s)

/-- A walk tells of an evaluation, wherever both start. -/
def Follows (root : Node) (x : Walk σ α) (y : EStateM EvalError σ α) : Prop :=
  ∀ s before, Tells host context root before (x (s, before)) (y s)

end

variable {host : Host V F σ} {context : Context V F} {root node : Node}

theorem fitting_nil (root : Node) : Fitting root [] := by
  intro place mem
  cases mem

theorem Fitting.append {first others : List Place} (h : Fitting root first)
    (h' : Fitting root others) : Fitting root (first ++ others) := by
  intro place mem
  rcases List.mem_append.mp mem with mem | mem
  · exact h place mem
  · exact h' place mem

theorem Fitting.there {reached : List Place} (h : Fitting root reached) :
    ∀ place ∈ reached, (root.at? place).isSome := by
  intro place mem
  obtain ⟨node, stands, -⟩ := h place mem
  exact Option.isSome_of_eq_some stands

theorem misfit_malformed (stands : root.at? place = some node) (arity : node.kind.arity = some n)
    (many : node.operands.length ≠ n) :
    Misfit root place (.malformed node.kind n node.operands.length) := by
  cases n with
  | zero => exact .unexpected stands arity many
  | succ n => exact .count stands arity many

theorem Misfit.unfit (h : Misfit root place e) :
    ∃ node, root.at? place = some node ∧ ¬ node.Fits := by
  cases h with
  | unexpected stands arity many => exact ⟨_, stands, fun fits => many (fits 0 arity)⟩
  | count stands arity many => exact ⟨_, stands, fun fits => many (fits _ arity)⟩

/-- What comes later has been told from a longer list. -/
theorem Tells.later {result : EStateM.Result Halt (σ × List Place) α} (first : Fitting root more)
    (h : Tells host context root (before ++ more) result result') :
    Tells host context root before result result' := by
  cases h with
  | value came fitting =>
    rw [List.append_assoc] at came
    exact .value came (first.append fitting)
  | accessor came fitting stands returns =>
    rw [List.append_assoc] at came
    exact .accessor came (first.append fitting) stands returns
  | node came fitting other =>
    rw [List.append_assoc] at came
    exact .node came (first.append fitting) other
  | misfit came fitting misfit =>
    rw [List.append_assoc, ← List.append_assoc more] at came
    exact .misfit came (first.append fitting) misfit

theorem follows_pure (a : α) : Follows host context root (pure a) (pure a) :=
  fun _ _ => .value (List.append_nil _).symm (fitting_nil root)

theorem follows_throw (other : ¬ e.Internal) :
    Follows host context root (throw (.node e) : Walk σ α) (throw e) :=
  fun _ _ => .node (List.append_nil _).symm (fitting_nil root) other

theorem Follows.bind {x : Walk σ α} {y : EStateM EvalError σ α} {f : α → Walk σ β}
    {g : α → EStateM EvalError σ β} (first : Follows host context root x y)
    (rest : ∀ a, Follows host context root (f a) (g a)) :
    Follows host context root (x >>= f) (y >>= g) := by
  intro s before
  have told := first s before
  simp only [Bind.bind, EStateM.bind]
  generalize x (s, before) = result at told
  generalize y s = result' at told
  cases told with
  | value came fitting =>
    subst came
    exact (rest _ _ _).later fitting
  | accessor came fitting stands returns => exact .accessor came fitting stands returns
  | node came fitting other => exact .node came fitting other
  | misfit came fitting misfit => exact .misfit came fitting misfit

theorem follows_converted (result : Except ConversionError α) :
    Follows host context root (Walk.converted result) (converted result) := by
  cases result with
  | ok a => exact follows_pure a
  | error cause => exact follows_throw id

theorem follows_access {run : EStateM EvalError σ α} (stands : root.at? place = some node)
    (returns : ∀ s e s', run s = .error e s' → Returns host context node e s') :
    Follows host context root (Walk.access run) run := by
  intro s before
  simp only [Walk.access]
  cases hr : run s with
  | ok a s' => exact .value (List.append_nil _).symm (fitting_nil root)
  | error e s' =>
    exact .accessor (List.append_nil _).symm (fitting_nil root) stands (returns s e s' hr)

theorem follows_read (stands : root.at? place = some ⟨.identifier, name, []⟩) :
    Follows host context root (Walk.read host context name) (context.read host name) := by
  unfold Walk.read Context.read
  cases bound : context.getVariable? name with
  | none => exact follows_throw id
  | some handle => exact follows_access stands fun _ _ _ => .read bound

theorem follows_call (stands : root.at? place = some ⟨.call, name, ts⟩)
    (values : List Value) :
    Follows host context root (Walk.call host context name values)
      (context.call host name values) := by
  unfold Walk.call Context.call
  cases bound : context.getFunction? name with
  | none => exact follows_throw id
  | some handle => exact follows_access stands fun _ _ _ => .call bound

/-- A walk goes on behind a node that has the operands it wants, and fails with the evaluation at
any other. -/
theorem follows_enter {x : Walk σ α} {y : EStateM EvalError σ α}
    (stands : root.at? place = some node) (fits : node.Fits → Follows host context root x y)
    (misfit : ∀ n, node.kind.arity = some n → node.operands.length ≠ n →
      y = throw (.malformed node.kind n node.operands.length)) :
    Follows host context root (do Walk.enter place node; x) y := by
  intro s before
  simp only [Bind.bind, EStateM.bind]
  by_cases wrong : ∃ n, node.kind.arity = some n ∧ node.operands.length ≠ n
  · obtain ⟨n, arity, many⟩ := wrong
    have stopped : Walk.enter place node (s, before) =
        .error (.node (.malformed node.kind n node.operands.length)) (s, before ++ [place]) := by
      simp only [Walk.enter, arity, if_neg many]
    rw [misfit n arity many, stopped]
    exact .misfit rfl (fitting_nil root) (misfit_malformed stands arity many)
  · have right : node.Fits := fun n arity => Classical.not_not.mp fun many => wrong ⟨n, arity, many⟩
    have entered : Walk.enter place node (s, before) = .ok () (s, before ++ [place]) := by
      unfold Walk.enter
      cases arity : node.kind.arity with
      | none => rfl
      | some n => exact if_pos (right n arity)
    rw [entered]
    refine (fits right s _).later ?_
    intro place' mem
    cases List.mem_singleton.mp mem
    exact ⟨node, stands, right⟩

theorem stands_placed {entry : Place × Node} (stands : root.at? place = some node)
    (mem : entry ∈ node.placed place) : root.at? entry.1 = some entry.2 := by
  obtain ⟨k, word, ts⟩ := node
  obtain ⟨⟨operand, i⟩, listed, rfl⟩ := List.mem_map.mp mem
  exact at?_operand stands (List.mk_mem_zipIdx_iff_getElem?.mp listed)

/-- An operand that is there is found. -/
theorem walkOperand_eq {k : Kind} {word : String} {ts : List Node} (ht : ts[i]? = some t) :
    walkOperand host context place ⟨k, word, ts⟩ i = walk host context (place ++ [i]) t := by
  rw [walkOperand]
  split
  · rename_i operand found
    cases ht.symm.trans found
    rfl
  · rename_i none
    cases ht.symm.trans none

/-- The queue of the walk yields the arguments that the evaluation has collected row by row. -/
theorem follows_arguments {queue : List (Place × Node)} {row : List Node}
    (queued : queue.map Prod.snd = row) (stands : ∀ entry ∈ queue, root.at? entry.1 = some entry.2)
    (below : ∀ t, t.size ≤ sizes row → ∀ place, root.at? place = some t →
      Follows host context root (walk host context place t) (eval host context t)) :
    Follows host context root (walkArguments host context queue)
      (evalAll host context (arguments row)) := by
  induction hn : sizes row using Nat.strongRecOn generalizing queue row with
  | _ n ih =>
    subst hn queued
    cases queue with
    | nil =>
      rw [walkArguments, List.map_nil, arguments_nil, evalAll]
      exact follows_pure []
    | cons entry rest =>
      obtain ⟨place, node⟩ := entry
      obtain ⟨first, others⟩ := List.forall_mem_cons.mp stands
      simp only [List.map_cons, sizes] at below ih ⊢
      rw [walkArguments]
      by_cases list : node.kind = .arguments
      · rw [if_pos list]
        refine follows_enter first ?_ ?_
        · intro fits
          have pair : node.isPair = true := by simp [isPair, list, fits 2 (by rw [list]; rfl)]
          have fewer : sizes (rest.map Prod.snd ++ node.operands) <
              node.size + sizes (rest.map Prod.snd) := by
            rw [sizes_append, size_eq node]
            omega
          rw [arguments_cons_pair pair]
          refine ih _ fewer ?_ ?_ (fun t small => below t (by omega)) rfl
          · rw [List.map_append, map_placed]
          · intro entry mem
            rcases List.mem_append.mp mem with mem | mem
            · exact others entry mem
            · exact stands_placed first mem
        · intro n arity many
          -- To the evaluation such a list is an argument like any other, and fails in its turn.
          obtain ⟨k, word, ts⟩ := node
          have single : isPair ⟨k, word, ts⟩ = false := by
            cases list
            cases arity
            simpa [isPair] using many
          rw [arguments_cons single, evalAll_cons, eval_malformed host context arity many]
          rfl
      · have fewer : sizes (rest.map Prod.snd) < node.size + sizes (rest.map Prod.snd) := by
          have := size_pos node
          omega
        rw [if_neg list, arguments_cons (isPair_of_kind list), evalAll_cons]
        refine (below node (by omega) place first).bind fun v => ?_
        refine (ih _ fewer rfl others (fun t small => below t (by omega)) rfl).bind fun vs => ?_
        exact follows_pure (v :: vs)

/-- A walk tells of the evaluation of the tree it is over. The induction is on the size of the tree,
since a queue of arguments can hold nodes from any depth below it. -/
theorem follows_walk (stands : root.at? place = some node) :
    Follows host context root (walk host context place node) (eval host context node) := by
  induction hn : node.size using Nat.strongRecOn generalizing node place with
  | _ n ih =>
    subst hn
    obtain ⟨k, word, ts⟩ := node
    have operand : ∀ i t, ts[i]? = some t → Follows host context root
        (walkOperand host context place ⟨k, word, ts⟩ i) (eval host context t) := by
      intro i t ht
      rw [walkOperand_eq ht]
      refine ih t.size ?_ (at?_operand stands ht) rfl
      exact size_lt (List.mem_of_getElem? ht)
    rw [walk]
    refine follows_enter stands ?_ fun n arity many => eval_malformed host context arity many word
    intro fits
    cases k with
    | number =>
      obtain rfl := List.length_eq_zero_iff.mp (fits 0 rfl)
      rw [eval]
      exact follows_converted _
    | identifier =>
      obtain rfl := List.length_eq_zero_iff.mp (fits 0 rfl)
      rw [eval]
      exact follows_read stands
    | call =>
      rw [eval]
      refine Follows.bind ?_ (follows_call stands)
      refine follows_arguments (map_placed _ _) (fun entry mem => stands_placed stands mem) ?_
      intro t small place' stands'
      refine ih t.size ?_ stands' rfl
      exact Nat.lt_succ_of_le small
    | arguments =>
      obtain ⟨first, others, rfl⟩ := List.length_eq_two.mp (fits 2 rfl)
      rw [eval]
      exact follows_throw id
    | group =>
      obtain ⟨inner, rfl⟩ := List.length_eq_one_iff.mp (fits 1 rfl)
      rw [eval]
      exact operand 0 inner rfl
    | sign s =>
      obtain ⟨signed, rfl⟩ := List.length_eq_one_iff.mp (fits 1 rfl)
      rw [eval]
      exact (operand 0 signed rfl).bind fun v => follows_converted _
    | operator op =>
      obtain ⟨left, right, rfl⟩ := List.length_eq_two.mp (fits 2 rfl)
      rw [eval]
      refine (operand 0 left rfl).bind fun v => ?_
      refine (follows_converted _).bind fun settled => ?_
      cases settled with
      | some result => exact follows_pure result
      | none => exact (operand 1 right rfl).bind fun w => follows_converted _
    | conditional =>
      obtain ⟨condition, yes, no, rfl⟩ := List.length_eq_three.mp (fits 3 rfl)
      rw [eval]
      refine (operand 0 condition rfl).bind fun v => ?_
      refine (follows_converted _).bind fun b => ?_
      cases b with
      | true => exact operand 1 yes rfl
      | false => exact operand 2 no rfl

/-- A tree of any shape is evaluated without asking for an operand that is not there. A walk over it
comes to the same value or error and only to nodes of the tree. The first of them with too few or
too many operands is the last one, and the error tells its kind and its counts. There is no other
error of that sort but what an accessor returns, so none if every node has the operands it wants. -/
theorem eval_misfit (host : Host V F σ) (context : Context V F) (root : Node) (s : σ) :
    ∃ (s' : σ) (reached : List Place), (∀ place ∈ reached, (root.at? place).isSome) ∧
      ((∃ v, walk host context [] root (s, []) = .ok v (s', reached) ∧
          eval host context root s = .ok v s' ∧ Fitting root reached) ∨
        (∃ e, walk host context [] root (s, []) = .error (.accessor e) (s', reached) ∧
          eval host context root s = .error e s' ∧ Fitting root reached ∧
          ∃ place node, root.at? place = some node ∧ Returns host context node e s') ∨
        (∃ e, walk host context [] root (s, []) = .error (.node e) (s', reached) ∧
          eval host context root s = .error e s' ∧
          (Fitting root reached ∧ ¬ e.Internal ∨
            ∃ before place, reached = before ++ [place] ∧ Fitting root before ∧
              Misfit root place e))) ∧
      ((∀ node, Within node root → node.Fits) → ∀ e, eval host context root s = .error e s' →
        e.Internal → walk host context [] root (s, []) = .error (.accessor e) (s', reached)) := by
  have told : Tells host context root [] (walk host context [] root (s, []))
      (eval host context root s) := follows_walk rfl s []
  generalize walk host context [] root (s, []) = result at told ⊢
  generalize eval host context root s = result' at told ⊢
  cases told with
  | value came fitting =>
    subst came
    exact ⟨_, _, fitting.there, .inl ⟨_, rfl, rfl, fitting⟩, nofun⟩
  | accessor came fitting stands returns =>
    subst came
    refine ⟨_, _, fitting.there, .inr (.inl ⟨_, rfl, rfl, fitting, _, _, stands, returns⟩), ?_⟩
    intro _ e failed _
    cases failed
    rfl
  | node came fitting other =>
    subst came
    refine ⟨_, _, fitting.there, .inr (.inr ⟨_, rfl, rfl, .inl ⟨fitting, other⟩⟩), ?_⟩
    intro _ e failed internal
    cases failed
    exact absurd internal other
  | misfit came fitting misfit =>
    subst came
    obtain ⟨node, stands, unfit⟩ := misfit.unfit
    refine ⟨_, _, ?_, .inr (.inr ⟨_, rfl, rfl, .inr ⟨_, _, rfl, fitting, misfit⟩⟩), ?_⟩
    · intro place mem
      rw [List.nil_append] at mem
      rcases List.mem_append.mp mem with mem | mem
      · exact fitting.there place mem
      · cases List.mem_singleton.mp mem
        exact Option.isSome_of_eq_some stands
    · intro fits
      exact absurd (fits node (within_of_at? stands)) unfit

/-- Accessors that fail with an error of their own. -/
def relaying : Host EvalError Unit Unit where
  readVariable e _ := fun s => .error e s
  callFunction _ _ _ := fun s => .ok (.boolean true) s

def relayingContext : Context EvalError Unit where
  defaults := Bindings.empty.setVariable "x" (.unexpectedOperands .number 1)

/-- Nothing is wrong with the tree, but an accessor says so of another one. -/
theorem eval_misfit_relayed : eval relaying relayingContext (.leaf .identifier "x") () =
      .error (.unexpectedOperands .number 1) () ∧
    ∃ reached, walk relaying relayingContext [] (.leaf .identifier "x") ((), []) =
      .error (.accessor (.unexpectedOperands .number 1)) ((), reached) := by
  have fits : ∀ node, Within node (.leaf .identifier "x") → node.Fits := by
    intro node inside n arity
    rw [within_leaf inside] at arity ⊢
    cases arity
    rfl
  have failed : eval relaying relayingContext (.leaf .identifier "x") () =
      .error (.unexpectedOperands .number 1) () := by cbv
  obtain ⟨_, reached, -, -, relayed⟩ := eval_misfit relaying relayingContext
    (.leaf .identifier "x") ()
  exact ⟨failed, reached, relayed fits _ failed trivial⟩

/-- The list of one argument is reported, since the number with an operand waits behind it. -/
example : walk relaying relayingContext [] ⟨.call, "f",
    [.operator .arguments [⟨.number, "1", [.leaf .identifier "x"]⟩, .leaf .number "2"],
      .operator .arguments [.leaf .identifier "x"]]⟩ ((), []) =
    .error (.node (.operandCount .arguments 2 1)) ((), [[], [0], [1]]) := by
  cbv

end Node
end Formula
