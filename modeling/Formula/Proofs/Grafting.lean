import Formula.Proofs.Places
import Formula.Proofs.Replacement
import Formula.Proofs.Stateless
import Mathlib

namespace Formula

/-- The nodes that are to stand at some places of a tree. -/
abbrev Grafts := Place → Option Node

/-- The grafts within the tree at a place. -/
def Grafts.under (grafts : Grafts) (place : Place) : Grafts :=
  fun inside => grafts (place ++ inside)

namespace Node

mutual

/-- The tree with the grafts in place of what stands there. One that lies inside another is lost. -/
def graft (grafts : Grafts) : Node → Node
  | ⟨kind, word, operands⟩ => (grafts []).getD ⟨kind, word, graftAll grafts 0 operands⟩

/-- The same for a row of operands, of which the first is the operand `i`. -/
def graftAll (grafts : Grafts) (i : Nat) : List Node → List Node
  | [] => []
  | operand :: others => operand.graft (grafts.under [i]) :: graftAll grafts (i + 1) others

end

variable {grafts : Grafts}

theorem graft_here (h : grafts [] = some node) (root : Node) : root.graft grafts = node := by
  cases root
  rw [graft, h, Option.getD_some]

theorem graft_below (h : grafts [] = none) (k : Kind) (word : String) (ts : List Node) :
    graft grafts ⟨k, word, ts⟩ = ⟨k, word, graftAll grafts 0 ts⟩ := by
  rw [graft, h, Option.getD_none]

theorem getElem?_graftAll (ts : List Node) (i j : Nat) :
    (graftAll grafts i ts)[j]? = ts[j]?.map (graft (grafts.under [i + j])) := by
  induction ts generalizing i j with
  | nil => rfl
  | cons t ts ih =>
    cases j with
    | zero => rfl
    | succ j =>
      rw [graftAll, List.getElem?_cons_succ, List.getElem?_cons_succ, ih, Nat.add_right_comm]
      rfl

theorem forall₂_graftAll {R : Node → Node → Prop} (ts : List Node) (i : Nat)
    (h : ∀ j t, ts[j]? = some t → R (t.graft (grafts.under [i + j])) t) :
    List.Forall₂ R (graftAll grafts i ts) ts := by
  induction ts generalizing i with
  | nil => exact .nil
  | cons t ts ih =>
    refine .cons (h 0 t rfl) (ih (i + 1) fun j u hu => ?_)
    rw [Nat.add_right_comm]
    exact h (j + 1) u hu

theorem length_graftAll (ts : List Node) (i : Nat) : (graftAll grafts i ts).length = ts.length :=
  (forall₂_graftAll (R := fun _ _ => True) ts i fun _ _ _ => trivial).length_eq

/-- A graft that lies inside no other one stands at its place. -/
theorem at?_graft {root : Node} (stands : (root.at? place).isSome)
    (replaced : grafts place = some node)
    (outermost : ∀ n < place.length, grafts (place.take n) = none) :
    (root.graft grafts).at? place = some node := by
  induction place generalizing root grafts with
  | nil => rw [graft_here replaced, at?]
  | cons i place ih =>
    obtain ⟨k, word, ts⟩ := root
    obtain ⟨t, ht⟩ := Option.isSome_iff_exists.mp (Option.isSome_of_isSome_bind stands)
    have ht' : (graftAll grafts 0 ts)[i]? = some (t.graft (grafts.under [i])) := by
      rw [getElem?_graftAll, ht, Nat.zero_add, Option.map_some]
    rw [at?_cons ht] at stands
    rw [graft_below (outermost 0 (Nat.succ_pos _)), at?_cons ht']
    exact ih stands replaced fun n hn => outermost (n + 1) (Nat.succ_lt_succ hn)

section

variable (host : Host V F σ) (context : Context V F)

/-- An operand of a node that its evaluation leaves out: the right one of a product whose left one
is as good as zero, and a branch that the condition does not choose, be it that the condition
fails. -/
inductive Unused : Node → Nat → Prop where
  | factor (found : eval host context left s = .ok v s') (number : v.toDouble = .ok x)
      (zero : nearZero x = true) : Unused ⟨.operator .multiply, word, left :: others⟩ 1
  | yes (unchosen : ∀ s v s', eval host context condition s = .ok v s' →
        v.toBoolean ≠ .ok true) :
      Unused ⟨.conditional, word, condition :: branches⟩ 1
  | no (unchosen : ∀ s v s', eval host context condition s = .ok v s' →
        v.toBoolean ≠ .ok false) :
      Unused ⟨.conditional, word, condition :: branches⟩ 2

/-- At the place is an operand that the evaluation of its node leaves out. -/
def Idle (root : Node) (place : Place) : Prop :=
  ∃ outer node i, place = outer ++ [i] ∧ root.at? outer = some node ∧ Unused host context node i

end

variable {host : Host V F σ} {context : Context V F} {root left condition : Node}

theorem not_idle_nil : ¬ Idle host context root [] := by
  rintro ⟨outer, node, i, nothing, -, -⟩
  simp at nothing

theorem Idle.unused (h : Idle host context root [i]) : Unused host context root i := by
  obtain ⟨outer, node, j, split, stands, unused⟩ := h
  have split : [] ++ [i] = outer ++ [j] := split
  obtain ⟨rfl, same⟩ := List.append_inj' split rfl
  cases same
  cases stands
  exact unused

theorem Idle.below (h : Idle host context root (i :: place)) (deeper : place ≠ [])
    (ht : root.operands[i]? = some t) : Idle host context t place := by
  obtain ⟨outer, node, j, split, stands, unused⟩ := h
  cases outer with
  | nil => exact absurd (List.cons.inj split).2 deeper
  | cons _ outer =>
    obtain ⟨rfl, inside⟩ := List.cons.inj split
    exact ⟨outer, node, j, inside, at?_cons ht ▸ stands, unused⟩

theorem eval_factor (found : left.eval host context = pure v) (number : v.toDouble = .ok x)
    (zero : nearZero x = true) (word : String) (right : Node) :
    eval host context ⟨.operator .multiply, word, [left, right]⟩ = pure (.double 0) := by
  have settled : Operator.settle? .multiply v = .ok (some (.double 0)) := by
    rw [Operator.settle?, number]
    simp only [bind, Except.bind, zero, if_true]
    rfl
  rw [eval, found, pure_bind, settled]
  rfl

/-- Of the branches at most the one counts that the condition chooses. -/
theorem eval_conditional_eq {condition' yes yes' no no' : Node}
    (steady : Steady (eval host context condition))
    (used : ∀ j t u, [condition, yes, no][j]? = some t → [condition', yes', no'][j]? = some u →
      ¬ Unused host context ⟨.conditional, word, [condition, yes, no]⟩ j →
      eval host context t = eval host context u) :
    eval host context ⟨.conditional, word, [condition, yes, no]⟩ =
      eval host context ⟨.conditional, word, [condition', yes', no']⟩ := by
  have same := used 0 condition condition' rfl rfl fun left => by cases left
  funext s
  rw [eval, eval, ← same]
  obtain ⟨v, found⟩ | ⟨e, failed⟩ := steady
  · have value : eval host context condition s = .ok v s := by rw [found]; rfl
    rw [found, pure_bind, pure_bind]
    cases hb : v.toBoolean with
    | error e => rfl
    | ok b =>
      cases b with
      | true =>
        refine congrFun (used 1 yes yes' rfl rfl fun left => ?_) s
        cases left with
        | yes unchosen => exact unchosen s v s value hb
      | false =>
        refine congrFun (used 2 no no' rfl rfl fun left => ?_) s
        cases left with
        | no unchosen => exact unchosen s v s value hb
  · rw [failed]
    rfl

/-- The operands that are left out can be any, and of the others only the outcomes count. -/
theorem Unused.eval_eq {k : Kind} {word : String} {ts us : List Node}
    (stateless : Stateless host context) (unused : Unused host context ⟨k, word, ts⟩ i)
    (many : ts.length = us.length)
    (used : ∀ j t u, ts[j]? = some t → us[j]? = some u → ¬ Unused host context ⟨k, word, ts⟩ j →
      eval host context t = eval host context u) :
    eval host context ⟨k, word, ts⟩ = eval host context ⟨k, word, us⟩ := by
  refine holds_of_arity (.equality σ) many fun arity => ?_
  cases unused with
  | @factor left _ v _ x _ others found number zero =>
    obtain ⟨right, rfl⟩ := List.length_eq_one_iff.mp (Nat.succ.inj (arity 2 rfl))
    obtain ⟨left', right', rfl⟩ := List.length_eq_two.mp many.symm
    have hleft := (stateless.eval left).eq_pure found
    have hleft' := (used 0 left left' rfl rfl nofun).symm.trans hleft
    rw [eval_factor hleft number zero, eval_factor hleft' number zero]
    rfl
  | @yes condition _ branches | @no condition _ branches =>
    obtain ⟨yes, no, rfl⟩ := List.length_eq_two.mp (Nat.succ.inj (arity 3 rfl))
    obtain ⟨condition', yes', no', rfl⟩ := List.length_eq_three.mp many.symm
    exact eval_conditional_eq (stateless.eval condition) used

/-- A graft that stands for an operand of the root makes the root one whose outcome is known, and
other grafts lie inside an operand. -/
theorem alike_graft (stateless : Stateless host context)
    (idle : ∀ place node, grafts place = some node → Idle host context root place) :
    Alike host context context (root.graft grafts) root := by
  induction root using Node.induction generalizing grafts with
  | node k word ts ih =>
    have whole : grafts [] = none := by
      refine Option.eq_none_iff_forall_not_mem.mpr fun node hnode => ?_
      exact not_idle_nil (idle [] node hnode)
    have below : ∀ i t, ts[i]? = some t → grafts [i] = none →
        Alike host context context (t.graft (grafts.under [i])) t := by
      intro i t ht kept
      refine ih t (List.mem_of_getElem? ht) fun place node hnode => ?_
      refine (idle (i :: place) node hnode).below ?_ ht
      rintro rfl
      cases kept.symm.trans hnode
    rw [graft_below whole]
    by_cases direct : ∃ i node, grafts [i] = some node
    · obtain ⟨i, node, hnode⟩ := direct
      have unused := (idle [i] node hnode).unused
      have alone : k ≠ .arguments := by
        rintro rfl
        cases unused
      refine .given (isPair_of_kind alone) (isPair_of_kind alone) ?_
      refine (unused.eval_eq stateless (length_graftAll ts 0).symm fun j t u ht hu used => ?_).symm
      rw [getElem?_graftAll, ht, Nat.zero_add] at hu
      cases hu
      refine (below j t ht ?_).eval_eq.symm
      exact Option.eq_none_iff_forall_not_mem.mpr fun node hnode =>
        used (idle [j] node hnode).unused
    · refine .node (fun _ _ => rfl) (fun _ => rfl) (forall₂_graftAll ts 0 fun i t ht => ?_)
      rw [Nat.zero_add]
      refine below i t ht ?_
      exact Option.eq_none_iff_forall_not_mem.mpr fun node hnode => direct ⟨i, node, hnode⟩

/-- What an evaluation leaves out may be anything: where the accessors of the context neither look
at the state nor change it, a tree comes to the same value or the same error with any nodes at any
number of such places, also with undefined names and with nodes that have too few or too many
operands. -/
theorem eval_graft (stateless : Stateless host context) (root : Node) (grafts : Grafts)
    (idle : ∀ place node, grafts place = some node → Idle host context root place) :
    (∀ place node, (root.at? place).isSome → grafts place = some node →
      (∀ n < place.length, grafts (place.take n) = none) →
      (root.graft grafts).at? place = some node) ∧
    eval host context (root.graft grafts) = eval host context root :=
  ⟨fun _ _ stands replaced outermost => at?_graft stands replaced outermost,
    (alike_graft stateless idle).eval_eq⟩

/-- Functions that count their arguments. -/
def counting : Host Unit Unit Unit where
  readVariable _ _ := pure (.boolean true)
  callFunction _ _ arguments := pure (.integer (.ofNat arguments.length))

def countingContext : Context Unit Unit :=
  { defaults := Bindings.empty.setFunction "f" () }

theorem stateless_counting : Stateless counting countingContext where
  reads _ _ _ := steady_pure _
  calls _ _ _ _ := steady_pure _

def zeroTimes (right : Node) : Node :=
  .operator (.operator .multiply) [.leaf .number "0", right]

/-- The tree of `f(0*x,0*y?0*z:f())`. -/
def countedTree : Node :=
  ⟨.call, "f", [argumentRow (zeroTimes (.leaf .identifier "x")) [.operator .conditional
    [zeroTimes (.leaf .identifier "y"), zeroTimes (.leaf .identifier "z"), ⟨.call, "f", []⟩]]]⟩

/-- A negation of nothing, a call of an unbound function, a number with an operand, and a graft
inside that number. -/
def countedGrafts : Grafts
  | [0, 0, 1] => some (.operator (.sign .not) [])
  | [0, 1, 0, 1] => some ⟨.call, "g", [.leaf .number "2"]⟩
  | [0, 1, 1] => some ⟨.number, "3", [.leaf .number "4"]⟩
  | [0, 1, 1, 1] => some (.operator .arguments [])
  | _ => none

theorem eval_zero : eval counting countingContext (.leaf .number "0") = pure (.double 0) := by
  cbv

theorem nearZero_zero : nearZero 0 = true := by
  decide

theorem toBoolean_zero : (Value.double 0).toBoolean = .ok false :=
  congrArg Except.ok (by decide)

theorem eval_zeroTimes (right : Node) :
    eval counting countingContext (zeroTimes right) = pure (.double 0) :=
  eval_factor eval_zero rfl nearZero_zero "" right

theorem idle_countedGrafts (place : Place) (node : Node) (h : countedGrafts place = some node) :
    Idle counting countingContext countedTree place := by
  unfold countedGrafts at h
  split at h
  · exact ⟨[0, 0], _, 1, rfl, rfl, .factor (congrFun eval_zero ()) rfl nearZero_zero⟩
  · exact ⟨[0, 1, 0], _, 1, rfl, rfl, .factor (congrFun eval_zero ()) rfl nearZero_zero⟩
  · refine ⟨[0, 1], _, 1, rfl, rfl, .yes fun s v s' found => ?_⟩
    have value : (pure (.double 0) : EStateM EvalError Unit Value) s = .ok v s' := by
      rw [← eval_zeroTimes (.leaf .identifier "y")]
      exact found
    cases value
    simp [toBoolean_zero]
  · exact ⟨[0, 1, 1], _, 1, rfl, rfl, .factor (congrFun eval_zero ()) rfl nearZero_zero⟩
  · cases h

theorem eval_countedTree : eval counting countingContext countedTree = pure (.integer 2) := by
  have row : ∀ t u, arguments [argumentRow (zeroTimes t) [.operator .conditional u]] =
      [zeroTimes t, .operator .conditional u] := by
    intro t u
    refine arguments_argumentRow _ _ ?_
    simp [isPair, zeroTimes, operator]
  have emptyCall : eval counting countingContext ⟨.call, "f", []⟩ = pure (.integer 0) := by cbv
  have second : eval counting countingContext (.operator .conditional
      [zeroTimes (.leaf .identifier "y"), zeroTimes (.leaf .identifier "z"), ⟨.call, "f", []⟩]) =
      pure (.integer 0) := by
    rw [operator, eval, eval_zeroTimes, pure_bind, toBoolean_zero]
    exact emptyCall
  rw [countedTree, eval, row, evalAll, eval_zeroTimes, evalAll, second, evalAll]
  cbv

theorem eval_graft_counted :
    (countedTree.graft countedGrafts).at? [0, 1, 1] = some ⟨.number, "3", [.leaf .number "4"]⟩ ∧
    eval counting countingContext (countedTree.graft countedGrafts) = pure (.integer 2) := by
  obtain ⟨stands, same⟩ :=
    eval_graft stateless_counting countedTree countedGrafts idle_countedGrafts
  exact ⟨stands [0, 1, 1] _ rfl rfl (by decide), same.trans eval_countedTree⟩

end Node
end Formula
