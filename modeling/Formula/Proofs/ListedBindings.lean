import Formula.Proofs.LiveBindings
import Formula.Proofs.LowerCasing
import Mathlib

namespace Formula

namespace Edit

/-- A table holds what another one does, but for one key. There it holds what is given. -/
structure OnlyAt (key : String) (held : Option H) (before after : Std.TreeMap String H) : Prop where
  there : after[key]? = held
  elsewhere : ∀ other ≠ key, after[other]? = before[other]?

variable {edits : List (Edit H)} {before after : Std.TreeMap String H} {key name : String}

theorem OnlyAt.mem_keys (h : OnlyAt key held before after) (other : String) :
    other ∈ after.keys ↔ if other = key then held.isSome = true else other ∈ before.keys := by
  simp only [Std.TreeMap.mem_keys, Std.TreeMap.mem_iff_isSome_getElem?]
  split
  case isTrue same => rw [same, h.there]
  case isFalse apart => rw [h.elsewhere other apart]

theorem onlyAt_unset (table : Std.TreeMap String H) (name : String) :
    OnlyAt (Text.lower name) none table (apply table (.unset name)) where
  there := by simp [apply]
  elsewhere other apart := by simp [apply, Std.TreeMap.getElem?_erase, Ne.symm apart]

theorem onlyAt_set (table : Std.TreeMap String H) (name : String) (handle : H) :
    OnlyAt (Text.lower name) (some handle) table (apply table (.set name handle)) where
  there := by simp [apply]
  elsewhere other apart := by simp [apply, Std.TreeMap.getElem?_insert, Ne.symm apart]

/-- A name is stored in lower case, which is the lower case of itself. -/
theorem lower_of_mem (mem : name ∈ (edits.foldl apply ∅).keys) : Text.lower name = name := by
  obtain ⟨spelling, rfl⟩ := lower_of_mem_foldl (Std.TreeMap.mem_keys.mp mem)
  exact Text.lower_lower spelling

/-- A listed name is found where it is stored, under itself. -/
theorem live_of_mem (mem : name ∈ (edits.foldl apply ∅).keys) :
    ∃ handle, Live edits name handle ∧ (edits.foldl apply ∅)[name]? = some handle := by
  obtain ⟨handle, stored⟩ := Option.isSome_iff_exists.mp
    (Std.TreeMap.mem_iff_isSome_getElem?.mp (Std.TreeMap.mem_keys.mp mem))
  refine ⟨handle, getElem?_foldl.mp ?_, stored⟩
  rw [lower_of_mem mem]
  exact stored

end Edit

namespace Bindings

/-- A layer is another one but for one variable. -/
structure OnlyVariable (name : String) (held : Option V) (before after : Bindings V F) : Prop where
  table : Edit.OnlyAt name held before.variableTable after.variableTable
  kept : after.functionTable = before.functionTable
  names : ∀ other, other ∈ after.variableNames ↔
    if other = name then held.isSome = true else other ∈ before.variableNames

/-- A layer is another one but for one function. -/
structure OnlyFunction (name : String) (held : Option F) (before after : Bindings V F) : Prop where
  table : Edit.OnlyAt name held before.functionTable after.functionTable
  kept : after.variableTable = before.variableTable
  names : ∀ other, other ∈ after.functionNames ↔
    if other = name then held.isSome = true else other ∈ before.functionNames

section

variable (bindings : Bindings V F) (name : String)

theorem only_unsetVariable :
    OnlyVariable (Text.lower name) none bindings (bindings.unsetVariable name) where
  table := Edit.onlyAt_unset bindings.variableTable name
  kept := rfl
  names := (Edit.onlyAt_unset bindings.variableTable name).mem_keys

theorem only_setVariable (handle : V) :
    OnlyVariable (Text.lower name) (some handle) bindings (bindings.setVariable name handle) where
  table := Edit.onlyAt_set bindings.variableTable name handle
  kept := rfl
  names := (Edit.onlyAt_set bindings.variableTable name handle).mem_keys

theorem only_unsetFunction :
    OnlyFunction (Text.lower name) none bindings (bindings.unsetFunction name) where
  table := Edit.onlyAt_unset bindings.functionTable name
  kept := rfl
  names := (Edit.onlyAt_unset bindings.functionTable name).mem_keys

theorem only_setFunction (handle : F) :
    OnlyFunction (Text.lower name) (some handle) bindings (bindings.setFunction name handle) where
  table := Edit.onlyAt_set bindings.functionTable name handle
  kept := rfl
  names := (Edit.onlyAt_set bindings.functionTable name handle).mem_keys

end

variable {changes : List (Change V F)} {name : String}

theorem bound_of_mem_variableNames (mem : name ∈ (ofChanges changes).variableNames) :
    Text.lower name = name ∧ ∃ handle, LiveVariable changes name handle ∧
      (ofChanges changes).variableTable[name]? = some handle ∧
      (ofChanges changes).getVariable? name = some handle := by
  rw [variableNames, variableTable_ofChanges] at mem
  obtain ⟨handle, live, stored⟩ := Edit.live_of_mem mem
  rw [← variableTable_ofChanges] at stored
  exact ⟨Edit.lower_of_mem mem, handle, live, stored, getVariable?_ofChanges.mpr live⟩

theorem bound_of_mem_functionNames (mem : name ∈ (ofChanges changes).functionNames) :
    Text.lower name = name ∧ ∃ handle, LiveFunction changes name handle ∧
      (ofChanges changes).functionTable[name]? = some handle ∧
      (ofChanges changes).getFunction? name = some handle := by
  rw [functionNames, functionTable_ofChanges] at mem
  obtain ⟨handle, live, stored⟩ := Edit.live_of_mem mem
  rw [← functionTable_ofChanges] at stored
  exact ⟨Edit.lower_of_mem mem, handle, live, stored, getFunction?_ofChanges.mpr live⟩

/-- What is in lower case stays as it is, so each name that is listed for a layer stands for itself.
A look-up of it finds the handle that is stored under it, which is the one that the changes leave
bound. Taking it out takes out what is stored under it and nothing else, and setting it replaces
what is stored under it and nothing else. -/
theorem listed_ofChanges (changes : List (Change V F)) :
    (∀ text, Text.lower (Text.lower text) = Text.lower text) ∧
    (∀ name ∈ (ofChanges changes).variableNames,
      (∃ handle, LiveVariable changes name handle ∧
        (ofChanges changes).variableTable[name]? = some handle ∧
        (ofChanges changes).getVariable? name = some handle) ∧
      OnlyVariable name none (ofChanges changes) ((ofChanges changes).unsetVariable name) ∧
      ∀ handle, OnlyVariable name (some handle) (ofChanges changes)
        ((ofChanges changes).setVariable name handle)) ∧
    ∀ name ∈ (ofChanges changes).functionNames,
      (∃ handle, LiveFunction changes name handle ∧
        (ofChanges changes).functionTable[name]? = some handle ∧
        (ofChanges changes).getFunction? name = some handle) ∧
      OnlyFunction name none (ofChanges changes) ((ofChanges changes).unsetFunction name) ∧
      ∀ handle, OnlyFunction name (some handle) (ofChanges changes)
        ((ofChanges changes).setFunction name handle) := by
  refine ⟨Text.lower_lower, fun name listed => ?_, fun name listed => ?_⟩
  · obtain ⟨small, bound⟩ := bound_of_mem_variableNames listed
    have unset := only_unsetVariable (ofChanges changes) name
    have set := only_setVariable (ofChanges changes) name
    rw [small] at unset set
    exact ⟨bound, unset, set⟩
  · obtain ⟨small, bound⟩ := bound_of_mem_functionNames listed
    have unset := only_unsetFunction (ofChanges changes) name
    have set := only_setFunction (ofChanges changes) name
    rw [small] at unset set
    exact ⟨bound, unset, set⟩

def cities : List (Change Nat Nat) :=
  [.setVariable "ΟΔΟΣ" 1, .setFunction "F" 2, .setFunction "İ" 4, .unsetFunction "f",
    .setVariable "οδος" 3]

theorem liveVariable_cities : LiveVariable cities "οδος" 3 :=
  ⟨[.set "ΟΔΟΣ" 1], "οδος", [], rfl, rfl, by simp⟩

theorem lower_dotted : Text.lower "İ" = "i\u0307" := by
  cbv

theorem liveFunction_cities : LiveFunction cities "i\u0307" 4 := by
  have spelled : Text.lower "İ" = Text.lower "i\u0307" := by
    rw [← lower_dotted, Text.lower_lower]
  have other : Text.lower "f" ≠ Text.lower "i\u0307" := by
    have lower : Text.lower "f" = "f" := by cbv
    rw [← spelled, lower, lower_dotted]
    decide
  exact ⟨[.set "F" 2], "İ", [.unset "f"], rfl, spelled, by simpa [Edit.Ends] using other⟩

/-- The last letter of the variable has a small form of its own, and the small form of the function
is two characters. Both are found under the names in which they are listed. -/
theorem listed_cities :
    ("οδος" ∈ (ofChanges cities).variableNames ∧
      (ofChanges cities).variableTable["οδος"]? = some 3 ∧
      OnlyVariable "οδος" none (ofChanges cities) ((ofChanges cities).unsetVariable "οδος") ∧
      OnlyVariable "οδος" (some 5) (ofChanges cities)
        ((ofChanges cities).setVariable "οδος" 5)) ∧
    "i\u0307" ∈ (ofChanges cities).functionNames ∧
      (ofChanges cities).functionTable["i\u0307"]? = some 4 ∧
      OnlyFunction "i\u0307" none (ofChanges cities)
        ((ofChanges cities).unsetFunction "i\u0307") ∧
      OnlyFunction "i\u0307" (some 5) (ofChanges cities)
        ((ofChanges cities).setFunction "i\u0307" 5) := by
  have capitals : Text.lower "ΟΔΟΣ" = "οδος" := by cbv
  have listed : "οδος" ∈ (ofChanges cities).variableNames := by
    refine (lists_ofChanges.mem_variableNames _).mpr ⟨"οδος", 3, ?_, liveVariable_cities⟩
    rw [← capitals, Text.lower_lower]
  have listed' : "i\u0307" ∈ (ofChanges cities).functionNames := by
    refine (lists_ofChanges.mem_functionNames _).mpr ⟨"i\u0307", 4, ?_, liveFunction_cities⟩
    rw [← lower_dotted, Text.lower_lower]
  obtain ⟨-, onVariables, onFunctions⟩ := listed_ofChanges cities
  obtain ⟨⟨handle, -, stored, found⟩, unset, set⟩ := onVariables _ listed
  obtain ⟨⟨handle', -, stored', found'⟩, unset', set'⟩ := onFunctions _ listed'
  rw [getVariable?_ofChanges.mpr liveVariable_cities] at found
  rw [getFunction?_ofChanges.mpr liveFunction_cities] at found'
  exact ⟨⟨listed, stored.trans found.symm, unset, set 5⟩,
    listed', stored'.trans found'.symm, unset', set' 5⟩

end Bindings
end Formula
