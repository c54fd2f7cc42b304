import Formula.Proofs.DoubleOrder
import Formula.Proofs.StandardCalls
import Mathlib

namespace Formula

/-- The functions that look for an extreme, and when one number beats another one there. -/
inductive Seeks : String → (Float → Float → Bool) → Prop where
  | least : Seeks "min" (fun x y => x < y)
  | greatest : Seeks "max" (fun x y => x > y)

/-- A number that no other one of a list beats, and the first of those that are equal to it. -/
structure FirstExtreme (beats : Float → Float → Bool) (xs : List Float) (y : Float) : Prop where
  found : ∃ earlier later, xs = earlier ++ y :: later ∧ ∀ x ∈ earlier, ¬ x == y
  unbeaten : ∀ x ∈ xs, ¬ beats x y

/-- Numbers beat each other where their keys are smaller. -/
structure Keyed (beats : Float → Float → Bool) (key : Float → Int) : Prop where
  beats_iff (x y : Float) (number : x.isNaN = false) (number' : y.isNaN = false) :
    beats x y ↔ key x < key y
  beq_iff (x y : Float) (number : x.isNaN = false) (number' : y.isNaN = false) :
    x == y ↔ key x = key y

theorem Seeks.keyed (h : Seeks name beats) : ∃ key, Keyed beats key := by
  cases h with
  | least =>
    refine ⟨Double.rank, fun x y number number' => ?_, fun x y number number' => ?_⟩
    · rw [decide_eq_true_iff, Double.lt_iff_rank_lt number number']
    · exact Double.beq_iff_rank_eq number number'
  | greatest =>
    refine ⟨fun x => -Double.rank x, fun x y number number' => ?_, fun x y number number' => ?_⟩
    · rw [decide_eq_true_iff, gt_iff_lt, Double.lt_iff_rank_lt number' number, neg_lt_neg_iff]
    · rw [Double.beq_iff_rank_eq number number', neg_inj]

namespace FirstExtreme

variable {beats : Float → Float → Bool} {key : Float → Int} {xs : List Float} {x y : Float}

theorem mem (h : FirstExtreme beats xs y) : y ∈ xs := by
  obtain ⟨earlier, later, rfl, -⟩ := h.found
  simp

theorem key_le (keyed : Keyed beats key) (numbers : ∀ x ∈ xs, x.isNaN = false)
    (h : FirstExtreme beats xs y) (hx : x ∈ xs) : key y ≤ key x := by
  rw [← Int.not_lt, ← keyed.beats_iff x y (numbers x hx) (numbers y h.mem)]
  exact h.unbeaten x hx

theorem single (keyed : Keyed beats key) (number : y.isNaN = false) :
    FirstExtreme beats [y] y where
  found := ⟨[], [], rfl, nofun⟩
  unbeaten x hx := by
    rw [List.mem_singleton.mp hx, keyed.beats_iff y y number number]
    exact Int.lt_irrefl _

/-- A further number takes the place of the extreme only if it beats it. -/
theorem next (keyed : Keyed beats key) (numbers : ∀ u ∈ xs ++ [x], u.isNaN = false)
    (h : FirstExtreme beats xs y) :
    FirstExtreme beats (xs ++ [x]) (if beats x y then x else y) := by
  have old : ∀ u ∈ xs, u.isNaN = false := fun u hu => numbers u (by simp [hu])
  have number : x.isNaN = false := numbers x (by simp)
  have number' : y.isNaN = false := old y h.mem
  split_ifs with beaten
  · have less := (keyed.beats_iff x y number number').mp beaten
    refine ⟨⟨xs, [], rfl, fun u hu => ?_⟩, fun u hu => ?_⟩
    · have le := h.key_le keyed old hu
      rw [keyed.beq_iff u x (old u hu) number]
      omega
    · rw [keyed.beats_iff u x (numbers u hu) number]
      rcases List.mem_append.mp hu with hu | hu
      · have le := h.key_le keyed old hu
        omega
      · rw [List.mem_singleton.mp hu]
        exact Int.lt_irrefl _
  · obtain ⟨earlier, later, parts, apart⟩ := h.found
    refine ⟨⟨earlier, later ++ [x], by simp [parts], apart⟩, fun u hu => ?_⟩
    rcases List.mem_append.mp hu with hu | hu
    · exact h.unbeaten u hu
    · rw [List.mem_singleton.mp hu]
      exact beaten

/-- Two lists of the same numbers have equal extremes. -/
theorem beq_of_mem_iff (keyed : Keyed beats key) (numbers : ∀ x ∈ xs, x.isNaN = false)
    (h : FirstExtreme beats xs y) (same : ∀ x, x ∈ ys ↔ x ∈ xs) (h' : FirstExtreme beats ys z) :
    z == y := by
  have numbers' : ∀ x ∈ ys, x.isNaN = false := fun x hx => numbers x ((same x).mp hx)
  rw [keyed.beq_iff z y (numbers' z h'.mem) (numbers y h.mem)]
  exact Int.le_antisymm (h'.key_le keyed numbers' ((same y).mpr h.mem))
    (h.key_le keyed numbers ((same z).mp h'.mem))

end FirstExtreme

/-- The doubles that some arguments are converted to. -/
abbrev Doubles (arguments : List Value) (xs : List Float) : Prop :=
  List.Forall₂ (fun v x => v.toDouble = .ok x) arguments xs

namespace Builtin

/-- Looks at one more argument. -/
def contend (beats : Float → Float → Bool) (best : Float) (v : Value) : Except EvalError Float := do
  let x ← converted v.toDouble
  return if beats x best then x else best

theorem best_eq (beats : Float → Float → Bool) (first : Value) (others : List Value) :
    best beats first others = (do
      let start ← converted first.toDouble
      Value.double <$> others.foldlM (contend beats) start) :=
  rfl

theorem foldlM_contend (keyed : Keyed beats key) (doubles : Doubles others xs)
    (numbers : ∀ x ∈ seen ++ xs, x.isNaN = false) (h : FirstExtreme beats seen y) :
    ∃ z, others.foldlM (contend beats) y = .ok z ∧ FirstExtreme beats (seen ++ xs) z := by
  induction doubles generalizing seen y with
  | nil => exact ⟨y, rfl, by simpa using h⟩
  | @cons v x others xs converts _ ih =>
    rw [List.append_cons] at numbers ⊢
    have next := h.next keyed (fun u hu => numbers u (List.mem_append_left xs hu))
    obtain ⟨z, run, extreme⟩ := ih numbers next
    refine ⟨z, ?_, extreme⟩
    rw [List.foldlM_cons, contend, converts]
    exact run

theorem best_extreme (keyed : Keyed beats key) (doubles : Doubles (first :: others) xs)
    (numbers : ∀ x ∈ xs, x.isNaN = false) :
    ∃ y, best beats first others = .ok (.double y) ∧ FirstExtreme beats xs y := by
  obtain _ | @⟨_, x, _, xs, converts, doubles⟩ := doubles
  have start := FirstExtreme.single keyed (numbers x (by simp))
  obtain ⟨y, run, extreme⟩ := foldlM_contend keyed doubles numbers start
  refine ⟨y, ?_, extreme⟩
  rw [best_eq, converts]
  change Value.double <$> others.foldlM (contend beats) x = _
  rw [run]
  rfl

theorem foldlM_contend_error (converts : ∀ u ∈ earlier, ∃ x, u.toDouble = .ok x)
    (fails : v.toDouble = .error cause) (y : Float) :
    (earlier ++ v :: later).foldlM (contend beats) y = .error (.conversion cause) := by
  induction earlier generalizing y with
  | nil =>
    rw [List.nil_append, List.foldlM_cons, contend, fails]
    rfl
  | cons u earlier ih =>
    obtain ⟨⟨x, converts⟩, others⟩ := List.forall_mem_cons.mp converts
    rw [List.cons_append, List.foldlM_cons, contend, converts]
    exact ih others _

/-- The first argument that is not converted ends the search. -/
theorem best_error (converts : ∀ u ∈ earlier, ∃ x, u.toDouble = .ok x)
    (fails : v.toDouble = .error cause) (parts : first :: others = earlier ++ v :: later) :
    best beats first others = .error (.conversion cause) := by
  cases earlier with
  | nil =>
    cases parts
    rw [best_eq, fails]
    rfl
  | cons u earlier =>
    cases parts
    obtain ⟨⟨x, converts⟩, others⟩ := List.forall_mem_cons.mp converts
    rw [best_eq, converts]
    change Value.double <$> (earlier ++ v :: later).foldlM (contend beats) x = _
    rw [foldlM_contend_error others fails]
    rfl

end Builtin

namespace Seeks

theorem gives_iff (h : Seeks name beats) :
    Gives name (first :: others) result ↔ Builtin.best beats first others = result := by
  cases h with
  | least => exact Formula.gives_iff .min
  | greatest => exact Formula.gives_iff .max

theorem gives_nil (h : Seeks name beats) :
    Gives name [] (.error (.argumentCount name (.atLeast 1) 0)) := by
  cases h with
  | least => exact gives_eval .min []
  | greatest => exact gives_eval .max []

theorem gives_extreme (h : Seeks name beats) (keyed : Keyed beats key) (some : arguments ≠ [])
    (doubles : Doubles arguments xs) (numbers : ∀ x ∈ xs, x.isNaN = false) :
    ∃ y, Gives name arguments (.ok (.double y)) ∧ FirstExtreme beats xs y := by
  obtain ⟨first, others, rfl⟩ := List.exists_cons_of_ne_nil some
  obtain ⟨y, run, extreme⟩ := Builtin.best_extreme keyed doubles numbers
  exact ⟨y, h.gives_iff.mpr run, extreme⟩

end Seeks

/-- The least and the greatest of some numbers is the first one that no other beats, and it does
not depend on the order of the arguments but for being one of several equal numbers. The first
argument that is not converted to a double is an error, and so is an empty list of arguments. -/
theorem extreme_gives (h : Seeks name beats) :
    (∀ arguments xs, arguments ≠ [] → Doubles arguments xs → (∀ x ∈ xs, x.isNaN = false) →
      ∃ y, Gives name arguments (.ok (.double y)) ∧ FirstExtreme beats xs y ∧
        ∀ arguments', arguments'.Perm arguments →
          ∃ z, Gives name arguments' (.ok (.double z)) ∧ z == y) ∧
    (∀ earlier v later cause, (∀ u ∈ earlier, ∃ x, u.toDouble = .ok x) →
      v.toDouble = .error cause →
      Gives name (earlier ++ v :: later) (.error (.conversion cause))) ∧
    Gives name [] (.error (.argumentCount name (.atLeast 1) 0)) ∧
    (Arity.atLeast 1).text = "at least 1" := by
  obtain ⟨key, keyed⟩ := h.keyed
  refine ⟨?_, ?_, h.gives_nil, rfl⟩
  · intro arguments xs some doubles numbers
    obtain ⟨y, given, extreme⟩ := h.gives_extreme keyed some doubles numbers
    refine ⟨y, given, extreme, ?_⟩
    intro arguments' perm
    obtain ⟨ys, doubles', perm'⟩ := List.perm_comp_forall₂ perm doubles
    have some' : arguments' ≠ [] := by
      rintro rfl
      exact some (List.nil_perm.mp perm)
    have numbers' : ∀ x ∈ ys, x.isNaN = false := fun x hx => numbers x (perm'.mem_iff.mp hx)
    obtain ⟨z, given', extreme'⟩ := h.gives_extreme keyed some' doubles' numbers'
    exact ⟨z, given', extreme.beq_of_mem_iff keyed numbers (fun x => perm'.mem_iff) extreme'⟩
  · intro earlier v later cause converts fails
    obtain ⟨first, others, parts⟩ := List.exists_cons_of_ne_nil
      (List.append_ne_nil_of_right_ne_nil earlier (List.cons_ne_nil v later))
    rw [parts, h.gives_iff]
    exact Builtin.best_error converts fails parts.symm

/-- The two zeros are equal. -/
theorem extreme_gives_zero :
    (∃ y z, Gives "min" [.boolean true, .double (-0), .double 0] (.ok (.double y)) ∧
      FirstExtreme (fun x y => x < y) [1, -0, 0] y ∧
      Gives "min" [.double 0, .boolean true, .double (-0)] (.ok (.double z)) ∧ z == y) ∧
    ∀ t, Gives "max" [.boolean true, .datetime t, .double 0]
      (.error (.conversion (.invalidCast .datetime .double))) := by
  constructor
  · have doubles : Doubles [.boolean true, .double (-0), .double 0] [1, -0, 0] :=
      .cons rfl (.cons rfl (.cons rfl .nil))
    have numbers : ∀ x ∈ ([1, -0, 0] : List Float), x.isNaN = false := by decide
    have perm : [.double 0, .boolean true, .double (-0)].Perm
        [Value.boolean true, .double (-0), .double 0] :=
      (List.perm_append_singleton (Value.double 0) [.boolean true, .double (-0)]).symm
    obtain ⟨y, given, extreme, permuted⟩ :=
      (extreme_gives .least).1 _ _ (List.cons_ne_nil _ _) doubles numbers
    obtain ⟨z, given', equal⟩ := permuted _ perm
    exact ⟨y, z, given, extreme, given', equal⟩
  · intro t
    exact (extreme_gives .greatest).2.1 [.boolean true] (.datetime t) [.double 0] _
      (fun u hu => ⟨1, List.mem_singleton.mp hu ▸ rfl⟩) rfl

end Formula
