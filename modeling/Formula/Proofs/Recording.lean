import Formula.Proofs.Comparison

namespace Formula

/-- A run of an accessor, with its arguments if it is that of a function. -/
inductive Invocation (V F : Type) where
  | read (handle : V)
  | call (handle : F) (arguments : List Value)

/-- The same result with a list of runs beside the state. -/
def noted (runs : List (Invocation V F)) : EStateM.Result EvalError σ α →
    EStateM.Result EvalError (σ × List (Invocation V F)) α
  | .ok a s => .ok a (s, runs)
  | .error e s => .error e (s, runs)

namespace Host

variable (host : Host V F σ)

/-- The same accessors with a list of their runs, the last one at the end. A run that fails is
listed too. -/
def noting : Host V F (σ × List (Invocation V F)) where
  readVariable handle context := fun (s, runs) =>
    noted (runs ++ [.read handle]) (host.readVariable handle context s)
  callFunction handle context arguments := fun (s, runs) =>
    noted (runs ++ [.call handle arguments]) (host.callFunction handle context arguments s)

end Host

namespace Comparison

/-- The second computation is the first one with a list of runs, to which it adds its own. -/
def notes (V F σ : Type) : Comparison σ (σ × List (Invocation V F)) where
  Holds x y := ∀ s, ∃ runs, ∀ earlier, y (s, earlier) = noted (earlier ++ runs) (x s)
  of_pure a s := ⟨[], fun earlier => by rw [List.append_nil]; rfl⟩
  of_throw e s := ⟨[], fun earlier => by rw [List.append_nil]; rfl⟩
  of_bind {α β x y f g} first rest := by
    intro s
    obtain ⟨runs, hruns⟩ := first s
    cases hx : x s with
    | error e s' =>
      refine ⟨runs, fun earlier => ?_⟩
      simp only [bind, EStateM.bind, hruns, hx, noted]
    | ok a s' =>
      obtain ⟨more, hmore⟩ := rest a s'
      refine ⟨runs ++ more, fun earlier => ?_⟩
      simp only [bind, EStateM.bind, hruns, hx, noted, hmore, List.append_assoc]

end Comparison

namespace Context

variable (host : Host V F σ) (context : Context V F)

theorem read_noting (name : String) :
    (Comparison.notes V F σ).Holds (context.read host name) (context.read host.noting name) := by
  unfold read
  cases context.getVariable? name with
  | none => exact (Comparison.notes V F σ).of_throw _
  | some handle => exact fun s => ⟨[.read handle], fun earlier => rfl⟩

theorem call_noting (name : String) (arguments : List Value) :
    (Comparison.notes V F σ).Holds (context.call host name arguments)
      (context.call host.noting name arguments) := by
  unfold call
  cases context.getFunction? name with
  | none => exact (Comparison.notes V F σ).of_throw _
  | some handle => exact fun s => ⟨[.call handle arguments], fun earlier => rfl⟩

end Context

namespace Node

/-- Listing the runs of the accessors changes nothing else. -/
theorem eval_noting (host : Host V F σ) (context : Context V F) (node : Node) (s : σ) :
    ∃ runs, ∀ earlier, eval host.noting context node (s, earlier) =
      noted (earlier ++ runs) (eval host context node s) := by
  have matched : Matched (Comparison.notes V F σ) host host.noting context context node node :=
    matched_self (fun n _ _ => context.read_noting host n.text)
      (fun n _ _ => context.call_noting host n.text)
  exact matched.holds s

end Node
end Formula
