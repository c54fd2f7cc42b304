import Formula.Builder
import Formula.Proofs.LowerCasing

namespace Formula
namespace Builtin

theorem isSmall_name (f : Builtin) : ∀ c ∈ f.name.toList, Text.IsSmall c := by
  have small : f.name.toList.all (fun c => decide (Text.IsSmall c)) = true := by
    cases f <;> decide +kernel
  simpa only [List.all_eq_true, decide_eq_true_eq] using small

theorem lower_name (f : Builtin) : Text.lower f.name = f.name := by
  rw [Text.lower, Text.lowerFrom_of_isSmall [] _ (isSmall_name f), String.ofList_toList]

theorem find?_name (f : Builtin) : all.find? (fun g => g.name = f.name) = some f := by
  cases f <;> decide

theorem name_inj {f g : Builtin} (h : f.name = g.name) : f = g := by
  have found := find?_name f
  rw [h, find?_name g] at found
  exact (Option.some.inj found).symm

theorem mem_all (f : Builtin) : f ∈ all :=
  List.mem_of_find?_eq_some (find?_name f)

end Builtin

/-- Of functions that are bound one after the other, each is found under its own name. -/
theorem Bindings.getFunction?_builtins (bindings : Bindings V (Function F)) (fs : List Builtin)
    (f : Builtin) :
    (fs.foldl (fun bindings g => bindings.setFunction g.name (.builtin g)) bindings).getFunction?
      f.name = if f ∈ fs then some (.builtin f) else bindings.getFunction? f.name := by
  induction fs generalizing bindings with
  | nil => simp
  | cons g fs ih =>
    rw [List.foldl_cons, ih]
    by_cases later : f ∈ fs
    · simp [later]
    · by_cases same : g = f
      · simp [same, later, getFunction?, setFunction]
      · have apart : ¬ compare g.name f.name = .eq := by
          intro h
          exact same (Builtin.name_inj (Std.LawfulEqCmp.compare_eq_iff_eq.mp h))
        simp [later, Ne.symm same, getFunction?, setFunction, Builtin.lower_name,
          Std.TreeMap.getElem?_insert, apart]

theorem Builder.getFunction?_context (builder : Builder V F) (name : String) :
    builder.context.getFunction? name = builder.defaults.getFunction? name := by
  simp [context, Context.getFunction?, Bindings.getFunction?]

theorem getFunction?_standard (f : Builtin) :
    (Builder.standard : Builder (Variable V) (Function F)).context.getFunction? f.name =
      some (.builtin f) := by
  rw [Builder.getFunction?_context, Builder.standard, Bindings.standard,
    Bindings.getFunction?_builtins, if_pos (Builtin.mem_all f)]

/-- What a function gives for some arguments, called by its name where nothing but the names of the
language is bound. Whatever the state is and other handles do, the state stays as it is. -/
def Gives (name : String) (arguments : List Value) (result : Except EvalError Value) : Prop :=
  ∀ (V F σ : Type)
    (readVariable : V → Context (Variable V) (Function F) → EStateM EvalError σ Value)
    (callFunction : F → Context (Variable V) (Function F) → List Value →
      EStateM EvalError σ Value),
    Builder.standard.context.call (.standard readVariable callFunction) name arguments =
      MonadExcept.ofExcept result

/-- A function of the language is called by its name. -/
theorem gives_eval (f : Builtin) (arguments : List Value) :
    Gives f.name arguments (f.eval arguments) := by
  intro V F σ readVariable callFunction
  rw [Context.call, getFunction?_standard]
  rfl

/-- A call has one result only. -/
theorem Gives.unique (h : Gives name arguments result) (h' : Gives name arguments result') :
    result = result' := by
  let readVariable : Empty → Context (Variable Empty) (Function Empty) →
    EStateM EvalError Unit Value := nofun
  let callFunction : Empty → Context (Variable Empty) (Function Empty) → List Value →
    EStateM EvalError Unit Value := nofun
  have same := (h _ _ _ readVariable callFunction).symm.trans (h' _ _ _ readVariable callFunction)
  have ran := congrFun same ()
  cases result <;> cases result' <;> cases ran <;> rfl

theorem gives_iff (f : Builtin) : Gives f.name arguments result ↔ f.eval arguments = result :=
  ⟨(gives_eval f arguments).unique, fun h => h ▸ gives_eval f arguments⟩

theorem exists_of_map_triple {f : α → β} {xs : List α} (h : xs.map f = [y₁, y₂, y₃]) :
    ∃ x₁ x₂ x₃, xs = [x₁, x₂, x₃] ∧ f x₁ = y₁ ∧ f x₂ = y₂ ∧ f x₃ = y₃ := by
  obtain ⟨x₁, xs, rfl, h₁, h⟩ := List.map_eq_cons_iff.mp h
  obtain ⟨x₂, xs, rfl, h₂, h⟩ := List.map_eq_cons_iff.mp h
  obtain ⟨x₃, xs, rfl, h₃, h⟩ := List.map_eq_cons_iff.mp h
  obtain rfl := List.map_eq_nil_iff.mp h
  exact ⟨x₁, x₂, x₃, rfl, h₁, h₂, h₃⟩

end Formula
