import Formula.Proofs.Places

namespace Formula

/-- The places of the accessors that have run, in the order of their runs, each with its answer. -/
abbrev Log := List (Place × Value)

/-- The same accessors, seen from the node of which the tree is the operand `i`. -/
def Log.above (i : Nat) (log : Log) : Log :=
  log.map (fun entry => (i :: entry.1, entry.2))

namespace Answers

def ofLog (log : Log) : Answers :=
  fun place => log.lookup place

def Agrees (answers : Answers) (log : Log) : Prop :=
  ∀ place v, (place, v) ∈ log → answers place = some v

variable {answers : Answers} {log log' : Log}

theorem Agrees.left (h : answers.Agrees (log ++ log')) : answers.Agrees log :=
  fun place v mem => h place v (List.mem_append_left _ mem)

theorem Agrees.right (h : answers.Agrees (log ++ log')) : answers.Agrees log' :=
  fun place v mem => h place v (List.mem_append_right _ mem)

theorem Agrees.under {i : Nat} (h : answers.Agrees (log.above i)) :
    (answers.under [i]).Agrees log :=
  fun place v mem => h (i :: place) v (List.mem_map.mpr ⟨(place, v), mem, rfl⟩)

theorem agrees_ofLog (once : (log.map Prod.fst).Nodup) : (ofLog log).Agrees log := by
  induction log with
  | nil => intro place v mem; cases mem
  | cons entry log ih =>
    obtain ⟨first, once⟩ := List.nodup_cons.mp once
    rintro place v (_ | ⟨_, mem⟩)
    · simp [ofLog]
    · have other : place ≠ entry.1 := by
        rintro rfl
        exact first (List.mem_map.mpr ⟨_, mem, rfl⟩)
      have answer : ofLog log place = some v := ih once place v mem
      rwa [ofLog, List.lookup_cons, beq_false_of_ne other]

end Answers

theorem Log.places_above (i : Nat) (log : Log) :
    (log.above i).map Prod.fst = (log.map Prod.fst).map (i :: ·) := by
  simp [above, Function.comp_def]

namespace Traversal

section

variable (host : Host V F σ) (context : Context V F)

/-- A variable or a call runs the accessor that its name is bound to. That of a function is given
the values of the arguments. -/
inductive Accesses (answers : Answers) : Node → σ → EStateM.Result EvalError σ Value → Prop where
  | read (bound : context.getVariable? name = some handle)
      (run : host.readVariable handle context s = result) :
      Accesses answers ⟨.identifier, name, operands⟩ s result
  | call (bound : context.getFunction? name = some handle)
      (given : Node.argumentsWorth answers ⟨.call, name, operands⟩ = some arguments)
      (run : host.callFunction handle context arguments s = result) :
      Accesses answers ⟨.call, name, operands⟩ s result

/-- The accessor of the node at a place runs. -/
def Invokes (root : Node) (answers : Answers) (place : Place) (s : σ)
    (result : EStateM.Result EvalError σ Value) : Prop :=
  ∃ node, root.at? place = some node ∧ Accesses host context (answers.under place) node s result

/-- Accessors run one after the other and answer as logged. Each starts from the state that the one
before it leaves behind. -/
inductive Chain (root : Node) (answers : Answers) : σ → Log → σ → Prop where
  | nil : Chain root answers s [] s
  | cons (first : Invokes host context root answers place s (.ok v s₁))
      (others : Chain root answers s₁ log s₂) : Chain root answers s ((place, v) :: log) s₂

/-- A variable or a call has a name that is not bound. -/
inductive Unbound : Node → EvalError → Prop where
  | variable (free : context.getVariable? name = none) :
      Unbound ⟨.identifier, name, operands⟩ (.undefinedVariable name)
  | function (free : context.getFunction? name = none) :
      Unbound ⟨.call, name, operands⟩ (.undefinedFunction name)

/-- A node cannot use the value of its operand `i`. -/
inductive Refuses (answers : Answers) : Node → Nat → ConversionError → Prop where
  | sign {sign : Sign} (value : operand.worth (answers.under [0]) = some v)
      (refused : sign.apply v = .error cause) :
      Refuses answers ⟨.sign sign, word, [operand]⟩ 0 cause
  | left {op : Operator} (value : left.worth (answers.under [0]) = some v)
      (refused : op.settle? v = .error cause) :
      Refuses answers ⟨.operator op, word, [left, right]⟩ 0 cause
  | right {op : Operator} (value : left.worth (answers.under [0]) = some v)
      (unsettled : op.settle? v = .ok none) (value' : right.worth (answers.under [1]) = some w)
      (refused : op.combine v w = .error cause) :
      Refuses answers ⟨.operator op, word, [left, right]⟩ 1 cause
  | condition (value : condition.worth (answers.under [0]) = some v)
      (refused : v.toBoolean = .error cause) :
      Refuses answers ⟨.conditional, word, [condition, yes, no]⟩ 0 cause

/-- Why an evaluation that got through the places `done`, to the state `s`, does not go on to the
places `rest`. -/
inductive Stops (root : Node) (answers : Answers) :
    List Place → List Place → σ → EvalError → σ → Prop where
  | accessor (due : root.due answers place = true)
      (run : Invokes host context root answers place s (.error e s')) :
      Stops root answers done (place :: rest) s e s'
  | unbound (due : root.due answers place = true) (stands : root.at? place = some node)
      (free : Unbound context node e) : Stops root answers done (place :: rest) s e s
  | refused (kept : root.omits answers place = false) (stands : root.at? place = some node)
      (refuses : Refuses (answers.under place) node i cause) :
      Stops root answers (done ++ [place ++ [i]]) rest s (.conversion cause) s

/-- An evaluation gets through some places and logs what is due there, whatever the accessors at
other places answer. -/
structure Through (root : Node) (s : σ) (done : List Place) (log : Log) (s₁ : σ) : Prop where
  listed : (log.map Prod.fst).Sublist done
  order : ∀ answers : Answers, answers.Agrees log →
    log.map Prod.fst = done.filter (root.due answers)
  valued : ∀ answers : Answers, answers.Agrees log → ∀ place ∈ done,
    root.omits answers place = false → root.Valued answers place
  chain : ∀ answers : Answers, answers.Agrees log → Chain host context root answers s log s₁

/-- An evaluation either gets through all places and finds a value, or stops at one. -/
inductive Reports (root : Node) (finds : Answers → α → Prop) (s : σ) :
    EStateM.Result EvalError σ α → Prop where
  | finished (through : Through host context root s root.places log s')
      (found : ∀ answers : Answers, answers.Agrees log → finds answers a) :
      Reports root finds s (.ok a s')
  | stopped (split : root.places = done ++ rest) (through : Through host context root s done log s₁)
      (stops : ∀ answers : Answers, answers.Agrees log →
        Stops host context root answers done rest s₁ e s') : Reports root finds s (.error e s')

end

variable {host : Host V F σ} {context : Context V F} {root child : Node} {answers : Answers}
  {done rest : List Place} {log log' : Log} {i : Nat} {s s₁ s₂ s' : σ}

theorem Invokes.above (h : root.operands[i]? = some child)
    (run : Invokes host context child (answers.under [i]) place s result) :
    Invokes host context root answers (i :: place) s result := by
  obtain ⟨node, stands, accesses⟩ := run
  exact ⟨node, (Node.at?_cons h).trans stands, accesses⟩

theorem Chain.append (first : Chain host context root answers s log s₁)
    (others : Chain host context root answers s₁ log' s₂) :
    Chain host context root answers s (log ++ log') s₂ := by
  induction first with
  | nil => exact others
  | cons run _ ih => exact .cons run (ih others)

theorem Chain.above (h : root.operands[i]? = some child)
    (chain : Chain host context child (answers.under [i]) s log s₁) :
    Chain host context root answers s (log.above i) s₁ := by
  induction chain with
  | nil => exact .nil
  | cons run _ ih => exact .cons (run.above h) ih

/-- Where the evaluation of an operand stops, that of the node does. -/
theorem Stops.above (h : root.operands[i]? = some child)
    (taken : root.skipped answers i = false)
    (stops : Stops host context child (answers.under [i]) done rest s e s')
    (before after : List Place) : Stops host context root answers (before ++ done.map (i :: ·))
      (rest.map (i :: ·) ++ after) s e s' := by
  cases stops with
  | accessor due run => exact .accessor ((Node.due_cons h taken).trans due) (run.above h)
  | unbound due stands free =>
    exact .unbound ((Node.due_cons h taken).trans due) ((Node.at?_cons h).trans stands) free
  | @refused place node j cause done rest s kept stands refuses =>
    have kept' : root.omits answers (i :: place) = false := (Node.omits_cons h taken).trans kept
    have stands' : root.at? (i :: place) = some node := (Node.at?_cons h).trans stands
    have stop : Stops host context root answers
      (before ++ done.map (i :: ·) ++ [(i :: place) ++ [j]]) (rest.map (i :: ·) ++ after) s
      (.conversion cause) s := .refused kept' stands' refuses
    rw [List.map_append, ← List.append_assoc]
    exact stop

theorem Through.nil : Through host context root s [] [] s :=
  ⟨.slnil, fun _ _ => rfl, by simp, fun _ _ => .nil⟩

/-- Evaluates an operand that the value of the first one does not leave out. -/
theorem Through.operand (through : Through host context root s done log s₁)
    (h : root.operands[i]? = some child)
    (taken : ∀ answers : Answers, answers.Agrees log → root.skipped answers i = false)
    (inside : Through host context child s₁ done' log' s₂) :
    Through host context root s (done ++ done'.map (i :: ·)) (log ++ log'.above i) s₂ where
  listed := by
    rw [List.map_append, Log.places_above]
    exact through.listed.append (inside.listed.map _)
  order answers agrees := by
    have same : done'.filter (root.due answers ∘ (i :: ·)) =
        done'.filter (child.due (answers.under [i])) :=
      List.filter_congr fun place _ => Node.due_cons h (taken answers agrees.left)
    rw [List.map_append, Log.places_above, through.order answers agrees.left,
      inside.order _ agrees.right.under, List.filter_append, List.filter_map, same]
  valued answers agrees place mem kept := by
    rcases List.mem_append.mp mem with mem | mem
    · exact through.valued answers agrees.left place mem kept
    · obtain ⟨place, mem', rfl⟩ := List.mem_map.mp mem
      rw [Node.omits_cons h (taken answers agrees.left)] at kept
      exact (Node.valued_cons h).mpr (inside.valued _ agrees.right.under place mem' kept)
  chain answers agrees :=
    (through.chain answers agrees.left).append ((inside.chain _ agrees.right.under).above h)

/-- Passes over an operand that the value of the first one leaves out. -/
theorem Through.skip (through : Through host context root s done log s₁)
    (left : ∀ answers : Answers, answers.Agrees log → root.skipped answers i = true)
    (places : List Place) : Through host context root s (done ++ places.map (i :: ·)) log s₁ where
  listed := through.listed.trans (List.sublist_append_left ..)
  order answers agrees := by
    have none : (places.map (i :: ·)).filter (root.due answers) = [] := by
      simp [Node.due_skipped (left answers agrees)]
    rw [List.filter_append, none, List.append_nil, through.order answers agrees]
  valued answers agrees place mem kept := by
    rcases List.mem_append.mp mem with mem | mem
    · exact through.valued answers agrees place mem kept
    · obtain ⟨place, -, rfl⟩ := List.mem_map.mp mem
      rw [Node.omits_skipped (left answers agrees)] at kept
      cases kept
  chain := through.chain

/-- Comes to a node that runs no accessor, behind its operands. -/
theorem Through.inner (through : Through host context root s done log s₁)
    (inner : root.refers [] = false)
    (valued : ∀ answers : Answers, answers.Agrees log → root.Valued answers []) :
    Through host context root s (done ++ [[]]) log s₁ where
  listed := through.listed.trans (List.sublist_append_left ..)
  order answers agrees := by
    simp [List.filter_append, Node.due, inner, through.order answers agrees]
  valued answers agrees place mem kept := by
    rcases List.mem_append.mp mem with mem | mem
    · exact through.valued answers agrees place mem kept
    · exact List.mem_singleton.mp mem ▸ valued answers agrees
  chain := through.chain

/-- Comes to a node that runs an accessor, behind its operands. -/
theorem Through.reference (through : Through host context root s done log s₁)
    (refers : root.refers [] = true) (worth : ∀ answers : Answers, root.worth answers = answers [])
    (run : ∀ answers : Answers, answers.Agrees log →
      Accesses host context answers root s₁ (.ok v s₂)) :
    Through host context root s (done ++ [[]]) (log ++ [([], v)]) s₂ where
  listed := by simpa using through.listed
  order answers agrees := by
    simp [List.filter_append, Node.due, refers, Node.omits, through.order answers agrees.left]
  valued answers agrees place mem kept := by
    rcases List.mem_append.mp mem with mem | mem
    · exact through.valued answers agrees.left place mem kept
    · obtain rfl := List.mem_singleton.mp mem
      intro node stands _
      cases stands
      have answer : answers [] = some v := agrees.right [] v (List.mem_singleton.mpr rfl)
      exact Option.isSome_iff_exists.mpr ⟨v, (worth answers).trans answer⟩
  chain answers agrees :=
    (through.chain answers agrees.left).append
      (.cons ⟨root, rfl, run answers agrees.left⟩ .nil)

variable {finds : Answers → α → Prop} {finds' : Answers → β → Prop}

theorem Reports.map {x : EStateM EvalError σ α} (f : α → β)
    (reports : Reports host context root finds s (x s))
    (found : ∀ answers a, finds answers a → finds' answers (f a)) :
    Reports host context root finds' s ((do return f (← x)) s) := by
  simp only [bind, EStateM.bind, pure, EStateM.pure]
  generalize x s = result at reports
  cases reports with
  | finished through finds =>
    exact .finished through fun answers agrees => found _ _ (finds answers agrees)
  | stopped split through stops => exact .stopped split through stops

/-- Evaluates an operand and goes on with its value. -/
theorem Reports.operand {x : EStateM EvalError σ α} {f : α → EStateM EvalError σ β}
    (through : Through host context root s done log s₁) (h : root.operands[i]? = some child)
    (taken : ∀ answers : Answers, answers.Agrees log → root.skipped answers i = false)
    (split : root.places = done ++ child.places.map (i :: ·) ++ rest)
    (inside : Reports host context child finds s₁ (x s₁))
    (next : ∀ a (log' : Log) s₂,
      Through host context root s (done ++ child.places.map (i :: ·)) (log ++ log'.above i) s₂ →
      (∀ answers : Answers, answers.Agrees (log ++ log'.above i) → finds (answers.under [i]) a) →
      Reports host context root finds' s (f a s₂)) :
    Reports host context root finds' s ((x >>= f) s₁) := by
  simp only [bind, EStateM.bind]
  generalize x s₁ = result at inside
  cases inside with
  | finished inside found =>
    exact next _ _ _ (through.operand h taken inside)
      fun answers agrees => found _ agrees.right.under
  | @stopped done' rest' log' s₂ e s' split' inside stops =>
    refine .stopped ?_ (through.operand h taken inside) fun answers agrees =>
      (stops _ agrees.right.under).above h (taken answers agrees.left) done rest
    rw [split, split', List.map_append]
    simp only [List.append_assoc]

/-- Converts the value of the operand that has come last and goes on with the outcome. -/
theorem Reports.converted {result : Except ConversionError α} {f : α → EStateM EvalError σ β}
    (through : Through host context root s (done ++ child.places.map (i :: ·)) log s₁)
    (split : root.places = done ++ child.places.map (i :: ·) ++ rest)
    (refuses : ∀ cause, result = .error cause → ∀ answers : Answers, answers.Agrees log →
      Refuses answers root i cause)
    (next : ∀ a, result = .ok a → Reports host context root finds' s (f a s₁)) :
    Reports host context root finds' s ((Node.converted result >>= f) s₁) := by
  cases result with
  | ok a => exact next a rfl
  | error cause =>
    have last : done ++ child.places.map (i :: ·) =
        done ++ (Node.placesFrom 0 child.operands).map (i :: ·) ++ [[] ++ [i]] := by
      simp [Node.places_eq]
    refine .stopped split through fun answers agrees => ?_
    rw [last]
    exact .refused rfl rfl (refuses cause rfl answers agrees)

/-- Comes to a list of arguments. -/
theorem Reports.list (through : Through host context root s done log s₁)
    (split : root.places = done ++ [[]]) (list : root.kind = .arguments)
    (found : ∀ answers : Answers, answers.Agrees log → finds answers a) :
    Reports host context root finds s (.ok a s₁) := by
  have inner : root.refers [] = false := by simp [Node.refers, Node.at?, list]
  refine .finished (split ▸ through.inner inner ?_) found
  intro answers _ node stands single
  cases stands
  exact absurd list single

/-- Comes to a node that runs no accessor, but has a value. -/
theorem Reports.value (through : Through host context root s done log s₁)
    (split : root.places = done ++ [[]]) (inner : root.refers [] = false)
    (found : ∀ answers : Answers, answers.Agrees log → root.worth answers = some v) :
    Reports host context root (fun answers v => root.worth answers = some v) s (.ok v s₁) := by
  refine .finished (split ▸ through.inner inner ?_) found
  intro answers agrees node stands _
  cases stands
  exact Option.isSome_iff_exists.mpr ⟨v, found answers agrees⟩

/-- Comes to a node that runs an accessor, if its name is bound. -/
theorem Reports.reference {x : EStateM EvalError σ Value}
    (through : Through host context root s done log s₁) (split : root.places = done ++ [[]])
    (refers : root.refers [] = true) (worth : ∀ answers : Answers, root.worth answers = answers [])
    (outcome : (∃ e, Unbound context root e ∧ x s₁ = .error e s₁) ∨
      ∀ answers : Answers, answers.Agrees log → Accesses host context answers root s₁ (x s₁)) :
    Reports host context root (fun answers v => root.worth answers = some v) s (x s₁) := by
  have due : ∀ answers, root.due answers [] = true :=
    fun answers => by simp [Node.due, Node.omits, refers]
  rcases outcome with ⟨e, free, hx⟩ | run
  · rw [hx]
    exact .stopped split through fun answers _ => .unbound (due answers) rfl free
  · cases hx : x s₁ with
    | ok v s₂ =>
      rw [hx] at run
      refine .finished (split ▸ through.reference refers worth run) fun answers agrees => ?_
      exact (worth answers).trans (agrees.right [] v (List.mem_singleton.mpr rfl))
    | error e s' =>
      rw [hx] at run
      exact .stopped split through fun answers agrees =>
        .accessor (due answers) ⟨root, rfl, run answers agrees⟩

end Traversal
end Formula
