import Formula.Proofs.LiveBindings
import Formula.Proofs.Verdict
import Formula.Workspace
import Mathlib

namespace Formula

/-- The changes behind the names that a holding sees, the earliest first. -/
inductive Story (V F : Type) where
  /-- A builder whose defaults these changes made. -/
  | builder (made : List (Change V F))
  /-- A context or expression over defaults that were taken when `made` had made them, and the
  changes to its own layer. -/
  | scope (made own : List (Change V F))

namespace Story

/-- The changes that made the defaults. -/
def made : Story V F → List (Change V F)
  | builder made | scope made _ => made

/-- The changes to a layer above the defaults. -/
def own : Story V F → List (Change V F)
  | builder _ => []
  | scope _ own => own

def change (story : Story V F) (c : Change V F) : Story V F :=
  match story with
  | builder made => builder (made ++ [c])
  | scope made own => scope made (own ++ [c])

/-- A name finds what is live in the layer of its own, and what is live in the defaults if nothing
is live there. -/
def Finds (live : List (Change V F) → String → H → Prop) (story : Story V F) (name : String)
    (handle : H) : Prop :=
  live story.own name handle ∨
    (∀ other, ¬ live story.own name other) ∧ live story.made name handle

end Story

/-- The name that a command puts something under. -/
def Command.target : Command V F → String
  | .build name _ | .parse _ _ name | .context _ name | .clone _ name | .change name _ => name

namespace Workspace

/-- A command is carried out if what it works on is there: a builder that accepts the text for
`parse`, and anything at all for the others. -/
def Allows (workspace : Workspace V F) : Command V F → Prop
  | .build .. => True
  | .parse source text _ => ∃ builder expression,
      workspace[source]? = some (.builder builder) ∧ builder.parse text = .ok expression
  | .context source _ | .clone source _ | .change source _ =>
    ∃ holding, workspace[source]? = some holding

/-- What some commands, the earliest first, tell of a name. A snapshot of a builder tells of the
changes made to it until then and of none made since. -/
inductive Told : List (Command V F) → String → Story V F → Prop
  | build (made : b.defaults = .ofChanges changes) :
      Told (before ++ [.build name b]) name (.builder changes)
  | parse (told : Told before source (.builder changes))
      (allowed : (run ∅ before).Allows (.parse source text name)) :
      Told (before ++ [.parse source text name]) name (.scope changes [])
  | snapshot (told : Told before source (.builder changes)) :
      Told (before ++ [.context source name]) name (.scope changes [])
  | context (told : Told before source (.scope changes own)) :
      Told (before ++ [.context source name]) name (.scope changes own)
  | clone (told : Told before source story) :
      Told (before ++ [.clone source name]) name story
  | change (told : Told before name story) :
      Told (before ++ [.change name c]) name (story.change c)
  | other (told : Told before name story) (elsewhere : command.target ≠ name) :
      Told (before ++ [command]) name story
  | nothing (told : Told before name story) (refused : ¬ (run ∅ before).Allows command) :
      Told (before ++ [command]) name story

variable {workspace : Workspace V F} {commands : List (Command V F)} {command : Command V F}
  {slot : String}

theorem run_snoc : run workspace (commands ++ [command]) = (run workspace commands).step command :=
  List.foldl_append ..

/-- A command leaves everything alone but what stands under its target. -/
theorem step_other (elsewhere : command.target ≠ slot) :
    (workspace.step command)[slot]? = workspace[slot]? := by
  have put (holding : Holding V F) :
      (workspace.insert command.target holding)[slot]? = workspace[slot]? := by
    simp [Std.TreeMap.getElem?_insert, elsewhere]
  cases command with
  | build name b => exact put (.builder b)
  | parse source text name =>
    simp only [step]
    split
    · split
      · exact put (.expression _)
      · rfl
    · rfl
  | context source name | clone source name | change source c =>
    simp only [step]
    split
    · exact put _
    · rfl

theorem step_refused (refused : ¬ workspace.Allows command) :
    workspace.step command = workspace := by
  cases command with
  | build name b => exact absurd trivial refused
  | parse source text name =>
    simp only [step]
    split
    · next b held =>
      split
      · next expression accepted => exact absurd ⟨b, expression, held, accepted⟩ refused
      · rfl
    · rfl
  | context source name | clone source name | change source c =>
    simp only [step]
    split
    · next holding held => exact absurd ⟨holding, held⟩ refused
    · rfl

end Workspace

namespace Holding

/-- The layers of a holding are what the changes of its story make. -/
inductive Follows : Holding V F → Story V F → Prop
  | builder (defaults : b.defaults = .ofChanges made) : Follows (.builder b) (.builder made)
  | context (defaults : c.defaults = .ofChanges made) (overrides : c.overrides = .ofChanges own) :
      Follows (.context c) (.scope made own)
  | expression (defaults : e.context.defaults = .ofChanges made)
      (overrides : e.context.overrides = .ofChanges own) : Follows (.expression e) (.scope made own)

variable {holding : Holding V F} {story : Story V F}

theorem Follows.change (follows : holding.Follows story) (c : Change V F) :
    (holding.change c).Follows (story.change c) := by
  cases follows with
  | builder defaults =>
    exact .builder (by rw [Builder.change, defaults, Bindings.ofChanges_snoc])
  | context defaults overrides =>
    exact .context defaults (by rw [Context.change, overrides, Bindings.ofChanges_snoc])
  | expression defaults overrides =>
    exact .expression defaults
      (by rw [Expression.change, Context.change, overrides, Bindings.ofChanges_snoc])

theorem Follows.defaults (follows : holding.Follows story) :
    holding.scope.defaults = .ofChanges story.made := by
  cases follows <;> assumption

theorem Follows.overrides (follows : holding.Follows story) :
    holding.scope.overrides = .ofChanges story.own := by
  cases follows with
  | builder => rfl
  | context _ overrides | expression _ overrides => exact overrides

/-- The names seen from a holding, and those listed for the layers they are seen in, are the ones
that a story tells of. -/
structure Shows (holding : Holding V F) (story : Story V F) : Prop where
  getVariable? : ∀ name handle, holding.scope.getVariable? name = some handle ↔
    story.Finds LiveVariable name handle
  getFunction? : ∀ name handle, holding.scope.getFunction? name = some handle ↔
    story.Finds LiveFunction name handle
  overrides : holding.scope.overrides.Lists story.own
  defaults : holding.scope.defaults.Lists story.made

theorem orElse_eq_some_iff {own below : Option H} {live fallback : H → Prop}
    (hown : ∀ handle, own = some handle ↔ live handle)
    (hbelow : ∀ handle, below = some handle ↔ fallback handle) :
    (own <|> below) = some handle ↔ live handle ∨ (∀ other, ¬ live other) ∧ fallback handle := by
  simp only [← hown, ← hbelow]
  cases own <;> simp

theorem Follows.shows (follows : holding.Follows story) : holding.Shows story where
  getVariable? name handle := by
    rw [Context.getVariable?, follows.overrides, follows.defaults]
    exact orElse_eq_some_iff (fun _ => Bindings.getVariable?_ofChanges)
      (fun _ => Bindings.getVariable?_ofChanges)
  getFunction? name handle := by
    rw [Context.getFunction?, follows.overrides, follows.defaults]
    exact orElse_eq_some_iff (fun _ => Bindings.getFunction?_ofChanges)
      (fun _ => Bindings.getFunction?_ofChanges)
  overrides := follows.overrides ▸ Bindings.lists_ofChanges
  defaults := follows.defaults ▸ Bindings.lists_ofChanges

/-- A change of no function is seen by no look-up of a function. -/
theorem getFunction?_change (kept : c.onFunctions = none) (name : String) :
    (holding.change c).scope.getFunction? name = holding.scope.getFunction? name := by
  cases holding <;>
    simp [change, scope, Builder.context, Builder.change, Context.change, Expression.change,
      Context.getFunction?, Bindings.getFunction?, Bindings.functionTable_change, kept]

theorem getVariable?_change (kept : c.onVariables = none) (name : String) :
    (holding.change c).scope.getVariable? name = holding.scope.getVariable? name := by
  cases holding <;>
    simp [change, scope, Builder.context, Builder.change, Context.change, Expression.change,
      Context.getVariable?, Bindings.getVariable?, Bindings.variableTable_change, kept]

end Holding

namespace Workspace

variable {commands : List (Command V F)} {slot : String} {story : Story V F}

/-- What stands under a name follows all that is told of it. -/
theorem follows_of_told (told : Told commands slot story) :
    ∃ holding, (run ∅ commands)[slot]? = some holding ∧ holding.Follows story := by
  induction told with
  | build made => exact ⟨_, by simp [run_snoc, step], .builder made⟩
  | parse told allowed ih =>
    obtain ⟨b, expression, held, accepted⟩ := allowed
    obtain ⟨holding, held', follows⟩ := ih
    obtain rfl := Option.some.inj (held.symm.trans held')
    obtain ⟨defaults⟩ := follows
    obtain ⟨-, -, -, -, -, -, taken⟩ := Builder.sentence_of_parse accepted
    exact ⟨.expression expression, by simp [run_snoc, step, held, accepted],
      .expression (taken ▸ defaults) (taken ▸ rfl)⟩
  | snapshot told ih =>
    obtain ⟨_, held, ⟨defaults⟩⟩ := ih
    exact ⟨.context _, by simp [run_snoc, step, held]; rfl, .context defaults rfl⟩
  | context told ih =>
    obtain ⟨holding, held, follows⟩ := ih
    exact ⟨.context holding.scope, by simp [run_snoc, step, held],
      .context follows.defaults follows.overrides⟩
  | clone told ih =>
    obtain ⟨holding, held, follows⟩ := ih
    exact ⟨holding, by simp [run_snoc, step, held], follows⟩
  | @change before name story c told ih =>
    obtain ⟨holding, held, follows⟩ := ih
    exact ⟨holding.change c, by simp [run_snoc, step, held], follows.change c⟩
  | other told elsewhere ih => rwa [run_snoc, step_other elsewhere]
  | nothing told refused ih => rwa [run_snoc, step_refused refused]

/-- If all builders were made by changes, something is told of all that stands under a name. -/
theorem told_of_held
    (built : ∀ name b, .build name b ∈ commands → ∃ changes, b.defaults = .ofChanges changes)
    (held : (run ∅ commands)[slot]? = some holding) : ∃ story, Told commands slot story := by
  induction commands using List.reverseRecOn generalizing slot holding with
  | nil => simp [run] at held
  | append_singleton before command ih =>
    have earlier : ∀ {slot holding}, (run ∅ before)[slot]? = some holding →
        ∃ story, Told before slot story :=
      ih (fun name b mem => built name b (List.mem_append_left _ mem))
    rw [run_snoc] at held
    by_cases elsewhere : command.target ≠ slot
    · rw [step_other elsewhere] at held
      exact (earlier held).imp fun _ told => told.other elsewhere
    by_cases allowed : (run ∅ before).Allows command
    · obtain rfl := not_not.mp elsewhere
      cases command with
      | build name b =>
        obtain ⟨changes, made⟩ := built name b (by simp)
        exact ⟨_, .build made⟩
      | parse source text name =>
        obtain ⟨b, expression, stands, accepted⟩ := allowed
        obtain ⟨story, told⟩ := earlier stands
        obtain ⟨_, stands', follows⟩ := follows_of_told told
        obtain rfl := Option.some.inj (stands.symm.trans stands')
        cases follows with
        | builder => exact ⟨_, told.parse ⟨b, expression, stands, accepted⟩⟩
      | context source name =>
        obtain ⟨_, stands⟩ := allowed
        obtain ⟨story, told⟩ := earlier stands
        cases story with
        | builder made => exact ⟨_, told.snapshot⟩
        | scope made own => exact ⟨_, told.context⟩
      | clone source name =>
        obtain ⟨_, stands⟩ := allowed
        exact (earlier stands).imp fun _ told => told.clone
      | change name c =>
        obtain ⟨_, stands⟩ := allowed
        obtain ⟨story, told⟩ := earlier stands
        exact ⟨_, told.change⟩
    · rw [step_refused allowed] at held
      exact (earlier held).imp fun _ told => told.nothing allowed

/-- After any commands, a name finds the handle set last in its own layer and not unset since, or
else what was live in the defaults when they were taken, or else nothing. A command changes
what stands under its target alone, and a change of variables no function, nor the other way
round. -/
theorem run_lookup (commands : List (Command V F)) (slot : String)
    (built : ∀ name b, .build name b ∈ commands → ∃ changes, b.defaults = .ofChanges changes) :
    ((∃ holding, (run ∅ commands)[slot]? = some holding) ↔ ∃ story, Told commands slot story) ∧
    (∀ holding story, (run ∅ commands)[slot]? = some holding → Told commands slot story →
      holding.Shows story) ∧
    (∀ command, command.target ≠ slot →
      (run ∅ (commands ++ [command]))[slot]? = (run ∅ commands)[slot]?) ∧
    ∀ c holding, (run ∅ commands)[slot]? = some holding →
      ∃ changed, (run ∅ (commands ++ [.change slot c]))[slot]? = some changed ∧
        (c.onFunctions = none →
          ∀ name, changed.scope.getFunction? name = holding.scope.getFunction? name) ∧
        (c.onVariables = none →
          ∀ name, changed.scope.getVariable? name = holding.scope.getVariable? name) := by
  refine ⟨⟨?_, ?_⟩, ?_, ?_, ?_⟩
  · rintro ⟨holding, held⟩
    exact told_of_held built held
  · rintro ⟨story, told⟩
    obtain ⟨holding, held, -⟩ := follows_of_told told
    exact ⟨holding, held⟩
  · intro holding story held told
    obtain ⟨holding', held', follows⟩ := follows_of_told told
    obtain rfl := Option.some.inj (held.symm.trans held')
    exact follows.shows
  · intro command elsewhere
    rw [run_snoc, step_other elsewhere]
  · intro c holding held
    exact ⟨holding.change c, by simp [run_snoc, step, held],
      fun kept => Holding.getFunction?_change kept, fun kept => Holding.getVariable?_change kept⟩

/-- A builder is changed after an expression is made of it, and the expression after it is
copied. -/
def copiedRate : List (Command Nat Empty) :=
  [.build "b" .empty, .change "b" (.setVariable "Rate" 1), .parse "b" "rate" "e",
    .change "b" .resetVariables, .change "e" (.setVariable "RATE" 2), .clone "e" "f",
    .change "e" (.unsetVariable "rAte")]

theorem run_lookup_copiedRate :
    (∀ name b, Command.build name b ∈ copiedRate → ∃ changes, b.defaults = .ofChanges changes) ∧
    ∃ e f, (run ∅ copiedRate)["e"]? = some e ∧ (run ∅ copiedRate)["f"]? = some f ∧
      e.scope.getVariable? "rate" = some 1 ∧ f.scope.getVariable? "rate" = some 2 := by
  have built : ∀ name b, Command.build name b ∈ copiedRate →
      ∃ changes, b.defaults = .ofChanges changes := by
    intro name b mem
    simp only [copiedRate, List.mem_cons, Command.build.injEq, reduceCtorEq, or_false,
      List.not_mem_nil] at mem
    exact ⟨[], mem.2 ▸ rfl⟩
  have founded : Told (copiedRate.take 0 ++ [.build "b" .empty]) "b" (.builder []) := .build rfl
  have rated : Told (copiedRate.take 1 ++ [.change "b" (.setVariable "Rate" 1)]) "b"
    (.builder [.setVariable "Rate" 1]) := founded.change
  have parsed : Told (copiedRate.take 2 ++ [.parse "b" "rate" "e"]) "e"
    (.scope [.setVariable "Rate" 1] []) := rated.parse ⟨_, _, by cbv, by cbv⟩
  have later : Told (copiedRate.take 3 ++ [.change "b" .resetVariables]) "e"
    (.scope [.setVariable "Rate" 1] []) := parsed.other (by decide)
  have changed : Told (copiedRate.take 4 ++ [.change "e" (.setVariable "RATE" 2)]) "e"
    (.scope [.setVariable "Rate" 1] [.setVariable "RATE" 2]) := later.change
  have copied : Told (copiedRate.take 5 ++ [.clone "e" "f"]) "f"
    (.scope [.setVariable "Rate" 1] [.setVariable "RATE" 2]) := changed.clone
  have told_f : Told (copiedRate.take 6 ++ [.change "e" (.unsetVariable "rAte")]) "f"
    (.scope [.setVariable "Rate" 1] [.setVariable "RATE" 2]) := copied.other (by decide)
  have kept : Told (copiedRate.take 5 ++ [.clone "e" "f"]) "e"
    (.scope [.setVariable "Rate" 1] [.setVariable "RATE" 2]) := changed.other (by decide)
  have told_e : Told (copiedRate.take 6 ++ [.change "e" (.unsetVariable "rAte")]) "e"
    (.scope [.setVariable "Rate" 1] [.setVariable "RATE" 2, .unsetVariable "rAte"]) := kept.change
  obtain ⟨held_e, shows_e, -⟩ := run_lookup copiedRate "e" built
  obtain ⟨held_f, shows_f, -⟩ := run_lookup copiedRate "f" built
  obtain ⟨e, he⟩ := held_e.mpr ⟨_, told_e⟩
  obtain ⟨f, hf⟩ := held_f.mpr ⟨_, told_f⟩
  refine ⟨built, e, f, he, hf, ((shows_e e _ he told_e).getVariable? _ _).mpr (.inr ⟨?_, ?_⟩),
    ((shows_f f _ hf told_f).getVariable? _ _).mpr (.inl ?_)⟩
  · intro other live
    have last : Edit.Live ([.set "RATE" 2] ++ [.unset "rAte"]) "rate" other := live
    obtain ⟨_, set, -⟩ | ⟨ends, -⟩ := Edit.live_snoc.mp last
    · cases set
    · exact ends (by decide : Text.lower "rAte" = Text.lower "rate")
  · exact ⟨[], "Rate", [], rfl, by decide, by simp⟩
  · exact ⟨[], "RATE", [], rfl, by decide, by simp⟩

end Workspace
end Formula
