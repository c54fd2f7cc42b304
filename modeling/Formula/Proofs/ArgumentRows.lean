import Formula.Evaluation

namespace Formula
namespace Node

/-- Arguments in a row, each paired with the list of those behind it. -/
def argumentRow : Node → List Node → Node
  | t, [] => t
  | t, u :: us => .operator .arguments [t, argumentRow u us]

theorem isPair_of_kind {t : Node} (h : t.kind ≠ .arguments) : t.isPair = false := by
  simp [isPair, h]

/-- What has been found already stays in front. -/
theorem argumentsFrom_append (front : List Node) (found : Array Node) (row : List Node) :
    argumentsFrom (front.toArray ++ found) row = front ++ argumentsFrom found row := by
  fun_induction argumentsFrom found row with
  | case1 found row h ih =>
    have hassoc : front.toArray ++ found ++ singles row =
        front.toArray ++ (found ++ singles row) := by
      apply Array.toList_inj.mp
      simp
    rw [argumentsFrom, if_pos h, hassoc, ih]
  | case2 found row h =>
    rw [argumentsFrom, if_neg h]
    simp

theorem argumentsFrom_found (found : Array Node) (row : List Node) :
    argumentsFrom found row = found.toList ++ argumentsFrom #[] row := by
  have h := argumentsFrom_append found.toList #[] row
  simpa using h

theorem arguments_nil : arguments [] = [] := by
  simp [arguments, argumentsFrom, singles]

theorem singles_append (xs ys : List Node) : singles (xs ++ ys) = singles xs ++ singles ys :=
  List.filter_append ..

theorem pairsBelow_append (xs ys : List Node) :
    pairsBelow (xs ++ ys) = pairsBelow xs ++ pairsBelow ys := by
  simp [pairsBelow, rowBelow]

theorem pairsBelow_of_none (h : ¬ row.any isPair = true) : pairsBelow row = [] := by
  have none : row.filter isPair = [] := by simpa [List.filter_eq_nil_iff] using h
  rw [pairsBelow, none]
  rfl

theorem arguments_row (row : List Node) :
    arguments row = singles row ++ arguments (pairsBelow row) := by
  by_cases h : row.any isPair = true
  · rw [arguments, argumentsFrom, if_pos h, argumentsFrom_found]
    simp [arguments]
  · rw [pairsBelow_of_none h, arguments_nil, arguments, argumentsFrom, if_neg h]
    simp

/-- Nodes wait in a queue for their turn: what is below the first ones comes behind the others. The
induction goes down row by row. -/
theorem arguments_append (xs ys : List Node) :
    arguments (xs ++ ys) = singles xs ++ arguments (ys ++ pairsBelow xs) := by
  induction hn : sizes (xs ++ ys) using Nat.strongRecOn generalizing xs ys with
  | _ n ih =>
    subst hn
    rw [arguments_row, singles_append, pairsBelow_append, arguments_row (ys ++ pairsBelow xs),
      singles_append, pairsBelow_append, List.append_assoc, List.append_assoc]
    by_cases h : (xs ++ ys).any isPair = true
    · have smaller := sizes_pairsBelow_lt (xs ++ ys) h
      rw [pairsBelow_append] at smaller
      rw [ih _ smaller (pairsBelow xs) (pairsBelow ys) rfl]
    · rw [List.any_append, Bool.or_eq_true, not_or] at h
      rw [pairsBelow_of_none h.1, pairsBelow_of_none h.2]
      rfl

theorem arguments_cons (h : t.isPair = false) (ts : List Node) :
    arguments (t :: ts) = t :: arguments ts := by
  have first := arguments_append [t] ts
  simpa [singles, pairsBelow, rowBelow, h] using first

theorem arguments_cons_pair (h : t.isPair = true) (ts : List Node) :
    arguments (t :: ts) = arguments (ts ++ t.operands) := by
  have first := arguments_append [t] ts
  simpa [singles, pairsBelow, rowBelow, h] using first

theorem arguments_single (h : t.isPair = false) : arguments [t] = [t] := by
  rw [arguments_cons h, arguments_nil]

/-- The first argument of a row is found before all later ones, although these wait in the same
queue. -/
theorem arguments_pair (h : t.isPair = false) (rest : Node) :
    arguments [⟨.arguments, word, [t, rest]⟩] = t :: arguments [rest] := by
  rw [arguments_cons_pair rfl]
  exact arguments_cons h [rest]

theorem arguments_argumentRow (t : Node) (ts : List Node)
    (h : ∀ u ∈ t :: ts, u.isPair = false) : arguments [argumentRow t ts] = t :: ts := by
  induction ts generalizing t with
  | nil => exact arguments_single (h t (List.mem_cons_self ..))
  | cons u us ih =>
    simp only [List.forall_mem_cons] at h
    rw [argumentRow, operator, arguments_pair h.1]
    rw [ih u (List.forall_mem_cons.mpr h.2)]

theorem evalAll_cons (host : Host V F σ) (context : Context V F) (t : Node) (ts : List Node) :
    evalAll host context (t :: ts) =
      (do return (← eval host context t) :: (← evalAll host context ts)) := by
  rw [evalAll]

end Node
end Formula
