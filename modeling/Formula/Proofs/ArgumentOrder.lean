import Formula.Proofs.ArgumentRows
import Mathlib

namespace Formula

/-! Pairs of a key and an element are put in order by their keys. -/

/-- The elements under one key, in their order. -/
def under (key : Nat) (xs : List (Nat × α)) : List (Nat × α) :=
  xs.filter (fun x => x.1 = key)

/-- No key is below one in front of it. -/
def Ascending (xs : List (Nat × α)) : Prop :=
  xs.Pairwise (fun x y => x.1 ≤ y.1)

def keyLe (x y : Nat × α) : Bool :=
  x.1 ≤ y.1

/-- In ascending order. Elements under the same key stay in their order. -/
def byKey (xs : List (Nat × α)) : List (Nat × α) :=
  xs.mergeSort keyLe

theorem keyLe_trans (x y z : Nat × α) (h : keyLe x y = true) (h' : keyLe y z = true) :
    keyLe x z = true := by
  simp only [keyLe, decide_eq_true_eq] at *
  exact Nat.le_trans h h'

theorem keyLe_total (x y : Nat × α) : (keyLe x y || keyLe y x) = true := by
  simpa [keyLe] using Nat.le_total x.1 y.1

theorem mem_under {xs : List (Nat × α)} : x ∈ under key xs ↔ x ∈ xs ∧ x.1 = key := by
  simp [under]

theorem under_append (key : Nat) (xs ys : List (Nat × α)) :
    under key (xs ++ ys) = under key xs ++ under key ys :=
  List.filter_append ..

theorem under_cons (key : Nat) (x : Nat × α) (xs : List (Nat × α)) :
    under key (x :: xs) = if x.1 = key then x :: under key xs else under key xs := by
  simp [under, List.filter_cons]

theorem under_eq_nil {xs : List (Nat × α)} (h : ∀ x ∈ xs, x.1 ≠ key) : under key xs = [] := by
  simpa [under] using h

theorem mem_iff_of_under {xs ys : List (Nat × α)} (same : ∀ key, under key xs = under key ys)
    (z : Nat × α) : z ∈ xs ↔ z ∈ ys := by
  have h := congrArg (z ∈ ·) (same z.1)
  simpa [mem_under] using h

theorem le_of_mem_cons {xs : List (Nat × α)} (least : ∀ y ∈ xs, x.1 ≤ y.1) (h : y ∈ x :: xs) :
    x.1 ≤ y.1 := by
  rcases List.mem_cons.mp h with rfl | behind
  · exact Nat.le_refl _
  · exact least y behind

/-- An ascending list is known by what it has under each key. -/
theorem Ascending.eq_of_under {xs ys : List (Nat × α)} (ascending : Ascending xs)
    (ascending' : Ascending ys) (same : ∀ key, under key xs = under key ys) : xs = ys := by
  have mem := mem_iff_of_under same
  induction xs generalizing ys with
  | nil => exact (List.eq_nil_iff_forall_not_mem.mpr fun z hz => nomatch (mem z).mpr hz).symm
  | cons x xs ih =>
    cases ys with
    | nil => exact nomatch (mem x).mp (List.mem_cons_self ..)
    | cons y ys =>
      obtain ⟨least, later⟩ := List.pairwise_cons.mp ascending
      obtain ⟨least', later'⟩ := List.pairwise_cons.mp ascending'
      -- Both heads have the least key of all, and each is the first under it.
      have le : x.1 ≤ y.1 := le_of_mem_cons least ((mem y).mpr (List.mem_cons_self ..))
      have ge : y.1 ≤ x.1 := le_of_mem_cons least' ((mem x).mp (List.mem_cons_self ..))
      have first := same x.1
      rw [under_cons, under_cons, if_pos rfl, if_pos (Nat.le_antisymm ge le)] at first
      obtain ⟨rfl, -⟩ := List.cons.inj first
      have rest (key : Nat) : under key xs = under key ys := by
        have whole := same key
        rw [under_cons, under_cons] at whole
        split at whole
        · exact (List.cons.inj whole).2
        · exact whole
      exact congrArg _ (ih later later' rest (mem_iff_of_under rest))

section

variable (xs : List (Nat × α))

theorem byKey_perm : (byKey xs).Perm xs :=
  List.mergeSort_perm ..

theorem byKey_of_ascending (h : Ascending xs) : byKey xs = xs :=
  List.mergeSort_of_pairwise (by simpa [Ascending, keyLe] using h)

theorem byKey_ascending : Ascending (byKey xs) := by
  have sorted := List.pairwise_mergeSort keyLe_trans keyLe_total xs
  simpa [Ascending, byKey, keyLe] using sorted

theorem under_byKey (key : Nat) : under key (byKey xs) = under key xs := by
  have alike : (under key xs).Pairwise (fun x y => keyLe x y) := by
    refine List.pairwise_iff_forall_sublist.mpr fun {x y} pair => ?_
    have hx := (mem_under.mp (pair.subset (List.mem_cons_self ..))).2
    have hy := (mem_under.mp (pair.subset (List.mem_cons_of_mem _ (List.mem_cons_self ..)))).2
    simp [keyLe, hx, hy]
  have kept : (under key xs).Sublist (byKey xs) :=
    List.sublist_mergeSort keyLe_trans keyLe_total alike List.filter_sublist
  have length : (under key (byKey xs)).length = (under key xs).length :=
    ((byKey_perm xs).filter _).length_eq
  have sublist : (under key xs).Sublist (under key (byKey xs)) := by
    have filtered := kept.filter (fun x => decide (x.1 = key))
    simpa [under, List.filter_filter] using filtered
  exact (sublist.eq_of_length length.symm).symm

end


namespace Node

mutual

/-- The arguments in a node from left to right, each with the number of pairs around it. -/
def withDepth (depth : Nat) : Node → List (Nat × Node)
  | ⟨kind, text, operands⟩ =>
    if isPair ⟨kind, text, operands⟩ then rowWithDepth (depth + 1) operands
    else [(depth, ⟨kind, text, operands⟩)]

def rowWithDepth (depth : Nat) : List Node → List (Nat × Node)
  | [] => []
  | t :: ts => withDepth depth t ++ rowWithDepth depth ts

end

/-- The nodes in the operands of a call that are no pairs, from left to right. -/
def leftToRight (operands : List Node) : List Node :=
  (rowWithDepth 0 operands).map Prod.snd

/-- The same nodes, those in fewer pairs first. -/
def byDepth (operands : List Node) : List Node :=
  (byKey (rowWithDepth 0 operands)).map Prod.snd

/-- A call evaluates the nodes of a row, one after the other and each once, and then passes the
values on in the same order. -/
def Takes (host : Host V F σ) (context : Context V F) (name : String)
    (operands row : List Node) : Prop :=
  eval host context ⟨.call, name, operands⟩ =
    (do context.call host name (← row.mapM (eval host context)))

theorem withDepth_eq (depth : Nat) (t : Node) : withDepth depth t =
    if t.isPair then rowWithDepth (depth + 1) t.operands else [(depth, t)] := by
  cases t
  simp only [withDepth]

mutual

theorem le_withDepth (depth : Nat) (t : Node) : ∀ x ∈ withDepth depth t, depth ≤ x.1 := by
  cases t with
  | mk kind text operands =>
    intro x hx
    rw [withDepth_eq] at hx
    split at hx
    · exact Nat.le_of_succ_le (le_rowWithDepth (depth + 1) operands x hx)
    · obtain rfl := List.mem_singleton.mp hx
      exact Nat.le_refl depth

theorem le_rowWithDepth (depth : Nat) (row : List Node) :
    ∀ x ∈ rowWithDepth depth row, depth ≤ x.1 := by
  cases row with
  | nil => exact nofun
  | cons t ts =>
    intro x hx
    rw [rowWithDepth, List.mem_append] at hx
    rcases hx with hx | hx
    · exact le_withDepth depth t x hx
    · exact le_rowWithDepth depth ts x hx

end

theorem rowWithDepth_append (depth : Nat) (ts us : List Node) :
    rowWithDepth depth (ts ++ us) = rowWithDepth depth ts ++ rowWithDepth depth us := by
  induction ts with
  | nil => rfl
  | cons t ts ih => rw [List.cons_append, rowWithDepth, rowWithDepth, ih, List.append_assoc]

/-- The nodes of a row that are no pairs can be taken first without a change at any depth, since all
others are further down. -/
theorem under_rowWithDepth (depth d : Nat) (row : List Node) :
    under d (rowWithDepth depth row) =
      under d ((singles row).map (depth, ·)) ++
        under d (rowWithDepth (depth + 1) (pairsBelow row)) := by
  induction row with
  | nil => rfl
  | cons t ts ih =>
    rw [rowWithDepth, under_append, ih, withDepth_eq]
    by_cases pair : t.isPair = true
    · have single : singles (t :: ts) = singles ts := by simp [singles, pair]
      have below : pairsBelow (t :: ts) = t.operands ++ pairsBelow ts := by
        simp [pairsBelow, rowBelow, pair]
      rw [if_pos pair, single, below, rowWithDepth_append, under_append]
      -- What is in the pair goes behind the rest of the row, which has nothing at the same depth.
      by_cases here : d = depth
      · have deeper : under d (rowWithDepth (depth + 1) t.operands) = [] :=
          under_eq_nil fun x hx => by have := le_rowWithDepth _ _ x hx; omega
        rw [deeper, List.nil_append, List.nil_append]
      · have higher : under d ((singles ts).map (depth, ·)) = [] :=
          under_eq_nil fun x hx => by
            obtain ⟨u, -, rfl⟩ := List.mem_map.mp hx
            exact Ne.symm here
        rw [higher, List.nil_append, List.nil_append]
    · have single : singles (t :: ts) = [t] ++ singles ts := by simp [singles, pair]
      have below : pairsBelow (t :: ts) = pairsBelow ts := by simp [pairsBelow, rowBelow, pair]
      rw [if_neg pair, single, below, List.map_append, under_append, List.append_assoc]
      rfl

/-- The queue of a call goes down depth by depth: the induction is on what is still below it. -/
theorem exists_levels (depth : Nat) (row : List Node) : ∃ found : List (Nat × Node),
    found.map Prod.snd = arguments row ∧ Ascending found ∧
      ∀ d, under d found = under d (rowWithDepth depth row) := by
  induction hn : sizes row using Nat.strongRecOn generalizing depth row with
  | _ n ih =>
    subst hn
    obtain ⟨found, args, ascending, same⟩ : ∃ found : List (Nat × Node),
        found.map Prod.snd = arguments (pairsBelow row) ∧ Ascending found ∧
          ∀ d, under d found = under d (rowWithDepth (depth + 1) (pairsBelow row)) := by
      by_cases h : row.any isPair = true
      · exact ih _ (sizes_pairsBelow_lt row h) (depth + 1) _ rfl
      · rw [pairsBelow_of_none h, arguments_nil]
        exact ⟨[], rfl, .nil, fun _ => rfl⟩
    refine ⟨(singles row).map (depth, ·) ++ found, ?_, ?_, fun d => ?_⟩
    · rw [List.map_append, List.map_map, args, arguments_row row]
      exact congrArg (· ++ _) (List.map_id _)
    · refine List.pairwise_append.mpr ⟨?_, ascending, fun x hx y hy => ?_⟩
      · exact List.pairwise_map.mpr (List.pairwise_of_forall fun _ _ => Nat.le_refl depth)
      · obtain ⟨t, -, rfl⟩ := List.mem_map.mp hx
        exact Nat.le_of_succ_le (le_rowWithDepth _ _ y ((mem_iff_of_under same y).mp hy))
    · rw [under_append, same, under_rowWithDepth depth]

theorem arguments_eq_byDepth (operands : List Node) : arguments operands = byDepth operands := by
  obtain ⟨found, args, ascending, same⟩ := exists_levels 0 operands
  rw [byDepth, ← args]
  congr 1
  exact ascending.eq_of_under (byKey_ascending _) fun d => (same d).trans (under_byKey _ d).symm

theorem evalAll_eq_mapM (host : Host V F σ) (context : Context V F) (ts : List Node) :
    evalAll host context ts = ts.mapM (eval host context) := by
  induction ts with
  | nil => rw [evalAll, List.mapM_nil]
  | cons t ts ih => rw [evalAll_cons, ih, List.mapM_cons]

/-- A call takes its arguments depth by depth, each once, and those of one depth from left to right.
This is the order from left to right in all operands if none of them is in fewer pairs than one in
front of it, as in a row of arguments. -/
theorem takes_byDepth (host : Host V F σ) (context : Context V F) (name : String)
    (operands : List Node) :
    Takes host context name operands (byDepth operands) ∧
      (byDepth operands).Perm (leftToRight operands) ∧
      (Ascending (rowWithDepth 0 operands) → byDepth operands = leftToRight operands) := by
  refine ⟨?_, (byKey_perm _).map _, fun ascending => ?_⟩
  · rw [Takes, eval, arguments_eq_byDepth, evalAll_eq_mapM]
  · rw [byDepth, byKey_of_ascending _ ascending, leftToRight]

/-- Variables are digits that note when they are read, and functions write the digits they are
called with behind each other. -/
def noting : Host Int64 Unit (List Int64) where
  readVariable digit _ := fun noted => .ok (.integer digit) (noted ++ [digit])
  callFunction _ _ digits := fun noted =>
    .ok (.integer (digits.foldl (fun
      | n, .integer digit => 10 * n + digit
      | n, _ => n) 0)) noted

def digits : Context Int64 Unit where
  defaults := (((Bindings.empty.setVariable "x" 1).setVariable "y" 2).setVariable "z" 3).setFunction
    "list" ()

/-- Three arguments in pairs to the right. -/
def rightChain (t u v : Node) : List Node :=
  [operator .arguments [t, operator .arguments [u, v]]]

/-- Three arguments in pairs to the left. -/
def leftChain (t u v : Node) : List Node :=
  [operator .arguments [operator .arguments [t, u], v]]

theorem takes_byDepth_rightChain :
    Takes noting digits "list"
      (rightChain (leaf .identifier "x") (leaf .identifier "y") (leaf .identifier "z"))
      [leaf .identifier "x", leaf .identifier "y", leaf .identifier "z"] := by
  obtain ⟨takes, -, inOrder⟩ := takes_byDepth noting digits "list"
    (rightChain (leaf .identifier "x") (leaf .identifier "y") (leaf .identifier "z"))
  rw [inOrder (by unfold Ascending; decide)] at takes
  exact takes

/-- The last of three arguments in pairs to the left is in fewer pairs than the others, and comes
first. -/
theorem leftChain_not_takes_leftToRight :
    leftToRight (leftChain (leaf .identifier "x") (leaf .identifier "y") (leaf .identifier "z")) =
      [leaf .identifier "x", leaf .identifier "y", leaf .identifier "z"] ∧
    eval noting digits ⟨.call, "list",
        leftChain (leaf .identifier "x") (leaf .identifier "y") (leaf .identifier "z")⟩ [] =
      .ok (.integer 312) [3, 1, 2] ∧
    ¬ Takes noting digits "list"
      (leftChain (leaf .identifier "x") (leaf .identifier "y") (leaf .identifier "z"))
      [leaf .identifier "x", leaf .identifier "y", leaf .identifier "z"] := by
  have inOrder : (do digits.call noting "list" (← [leaf .identifier "x", leaf .identifier "y",
      leaf .identifier "z"].mapM (eval noting digits))) [] = .ok (.integer 123) [1, 2, 3] := by
    cbv
  have taken : eval noting digits ⟨.call, "list",
      leftChain (leaf .identifier "x") (leaf .identifier "y") (leaf .identifier "z")⟩ [] =
        .ok (.integer 312) [3, 1, 2] := by
    cbv
  refine ⟨rfl, taken, fun takes => ?_⟩
  have same := congrFun takes []
  rw [taken, inOrder] at same
  cases same

end Node
end Formula
