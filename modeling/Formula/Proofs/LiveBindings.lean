import Formula.Bindings
import Mathlib.Data.List.Induction

namespace Formula

/-- What a change does to one of the two tables of a layer. -/
inductive Edit (H : Type) where
  | set (name : String) (handle : H)
  | unset (name : String)
  | reset

namespace Edit

/-- An edit ends a name if no earlier binding of the name outlasts it, under any spelling. -/
def Ends (name : String) : Edit H → Prop
  | .set other _ | .unset other => Text.lower other = Text.lower name
  | .reset => True

/-- The edits, the earliest first, set this handle under a spelling of the name, and no later one
ends the name. -/
def Live (edits : List (Edit H)) (name : String) (handle : H) : Prop :=
  ∃ before spelling after, edits = before ++ .set spelling handle :: after ∧
    Text.lower spelling = Text.lower name ∧ ∀ edit ∈ after, ¬ edit.Ends name

def apply (table : Std.TreeMap String H) : Edit H → Std.TreeMap String H
  | .set name handle => table.insert (Text.lower name) handle
  | .unset name => table.erase (Text.lower name)
  | .reset => ∅

variable {edits : List (Edit H)} {edit : Edit H} {name : String} {handle : H}

theorem not_live_nil : ¬ Live [] name handle := by
  rintro ⟨before, spelling, after, split, -⟩
  simp at split

theorem live_snoc : Live (edits ++ [edit]) name handle ↔
    (∃ spelling, edit = .set spelling handle ∧ Text.lower spelling = Text.lower name) ∨
      ¬ edit.Ends name ∧ Live edits name handle := by
  constructor
  · rintro ⟨before, spelling, after, split, spelled, kept⟩
    obtain rfl | ⟨after, last, rfl⟩ := after.eq_nil_or_concat
    · obtain ⟨-, rfl⟩ := List.append_inj' split rfl |>.imp_right List.singleton_inj.mp
      exact .inl ⟨spelling, rfl, spelled⟩
    · rw [List.concat_eq_append, ← List.cons_append, ← List.append_assoc] at split
      obtain ⟨rfl, same⟩ := List.append_inj' split rfl
      obtain rfl := List.singleton_inj.mp same
      simp only [List.concat_eq_append, List.mem_append, List.mem_singleton] at kept
      exact .inr ⟨kept edit (.inr rfl), before, spelling, after, rfl, spelled,
        fun e mem => kept e (.inl mem)⟩
  · rintro (⟨spelling, rfl, spelled⟩ | ⟨last, before, spelling, after, rfl, spelled, kept⟩)
    · exact ⟨edits, spelling, [], rfl, spelled, by simp⟩
    · refine ⟨before, spelling, after ++ [edit], by simp, spelled, fun e mem => ?_⟩
      obtain mem | mem := List.mem_append.mp mem
      · exact kept e mem
      · exact List.mem_singleton.mp mem ▸ last

/-- What one edit does to a look-up. -/
theorem getElem?_apply (table : Std.TreeMap String H) :
    (apply table edit)[Text.lower name]? = some handle ↔
    (∃ spelling, edit = .set spelling handle ∧ Text.lower spelling = Text.lower name) ∨
      ¬ edit.Ends name ∧ table[Text.lower name]? = some handle := by
  cases edit with
  | set other set =>
    by_cases same : Text.lower other = Text.lower name
    · simp [apply, Ends, same, and_assoc]
    · simp [apply, Ends, Std.TreeMap.getElem?_insert, same, and_assoc]
  | unset other =>
    by_cases same : Text.lower other = Text.lower name
    · simp [apply, Ends, same]
    · simp [apply, Ends, Std.TreeMap.getElem?_erase, same]
  | reset => simp [apply, Ends]

theorem getElem?_foldl : (edits.foldl apply ∅)[Text.lower name]? = some handle ↔
    Live edits name handle := by
  induction edits using List.reverseRecOn with
  | nil => simp [not_live_nil]
  | append_singleton edits edit ih =>
    rw [List.foldl_append, List.foldl_cons, List.foldl_nil, getElem?_apply, ih, live_snoc]

theorem mem_apply {table : Std.TreeMap String H} {key : String} (mem : key ∈ apply table edit) :
    key ∈ table ∨ ∃ spelling, Text.lower spelling = key := by
  cases edit with
  | set other set =>
    simp only [apply, Std.TreeMap.mem_insert, Std.LawfulEqCmp.compare_eq_iff_eq] at mem
    exact mem.symm.imp_right (⟨other, ·⟩)
  | unset other =>
    simp only [apply, Std.TreeMap.mem_erase] at mem
    exact .inl mem.2
  | reset => simp [apply] at mem

/-- No name is stored in a spelling other than its lower case. -/
theorem lower_of_mem_foldl {key : String} (mem : key ∈ edits.foldl apply ∅) :
    ∃ spelling, Text.lower spelling = key := by
  induction edits using List.reverseRecOn with
  | nil => simp at mem
  | append_singleton edits edit ih =>
    rw [List.foldl_append] at mem
    exact (mem_apply mem).elim ih id

theorem mem_keys_foldl {key : String} : key ∈ (edits.foldl apply ∅).keys ↔
    ∃ spelling handle, Text.lower spelling = key ∧ Live edits spelling handle := by
  rw [Std.TreeMap.mem_keys]
  constructor
  · intro mem
    obtain ⟨spelling, rfl⟩ := lower_of_mem_foldl mem
    obtain ⟨handle, found⟩ := Option.isSome_iff_exists.mp
      (Std.TreeMap.mem_iff_isSome_getElem?.mp mem)
    exact ⟨spelling, handle, rfl, getElem?_foldl.mp found⟩
  · rintro ⟨spelling, handle, rfl, live⟩
    exact Std.TreeMap.mem_iff_isSome_getElem?.mpr
      (Option.isSome_iff_exists.mpr ⟨handle, getElem?_foldl.mpr live⟩)

end Edit

namespace Change

/-- What a change does to the variables of a layer. -/
def onVariables : Change V F → Option (Edit V)
  | .setVariable name handle => some (.set name handle)
  | .unsetVariable name => some (.unset name)
  | .resetVariables => some .reset
  | .setFunction .. | .unsetFunction _ | .resetFunctions => none

/-- What a change does to the functions of a layer. -/
def onFunctions : Change V F → Option (Edit F)
  | .setFunction name handle => some (.set name handle)
  | .unsetFunction name => some (.unset name)
  | .resetFunctions => some .reset
  | .setVariable .. | .unsetVariable _ | .resetVariables => none

end Change

namespace Bindings

/-- The layer that some changes make of an empty one. -/
def ofChanges (changes : List (Change V F)) : Bindings V F :=
  changes.foldl change .empty

theorem ofChanges_snoc (changes : List (Change V F)) (c : Change V F) :
    ofChanges (changes ++ [c]) = (ofChanges changes).change c :=
  List.foldl_append ..

theorem variableTable_change (bindings : Bindings V F) (c : Change V F) :
    (bindings.change c).variableTable =
      c.onVariables.toList.foldl Edit.apply bindings.variableTable := by
  cases c <;> rfl

theorem functionTable_change (bindings : Bindings V F) (c : Change V F) :
    (bindings.change c).functionTable =
      c.onFunctions.toList.foldl Edit.apply bindings.functionTable := by
  cases c <;> rfl

variable {changes : List (Change V F)}

/-- A table for which changes are edits is what the edits make of an empty one. -/
theorem table_ofChanges {table : Bindings V F → Std.TreeMap String H}
    {view : Change V F → Option (Edit H)} (empty : table .empty = ∅)
    (change : ∀ bindings c, table (bindings.change c) =
      (view c).toList.foldl Edit.apply (table bindings)) :
    table (ofChanges changes) = (changes.filterMap view).foldl Edit.apply ∅ := by
  induction changes using List.reverseRecOn with
  | nil => exact empty
  | append_singleton changes c ih =>
    rw [ofChanges_snoc, change, ih, List.filterMap_append, List.foldl_append]
    cases hc : view c <;> simp [hc]

theorem variableTable_ofChanges : (ofChanges changes).variableTable =
    (changes.filterMap Change.onVariables).foldl Edit.apply ∅ :=
  table_ofChanges rfl variableTable_change

theorem functionTable_ofChanges : (ofChanges changes).functionTable =
    (changes.filterMap Change.onFunctions).foldl Edit.apply ∅ :=
  table_ofChanges rfl functionTable_change

end Bindings

/-- The variables that some changes leave bound. -/
def LiveVariable (changes : List (Change V F)) : String → V → Prop :=
  Edit.Live (changes.filterMap Change.onVariables)

/-- The functions that some changes leave bound. -/
def LiveFunction (changes : List (Change V F)) : String → F → Prop :=
  Edit.Live (changes.filterMap Change.onFunctions)

namespace Bindings

variable {changes : List (Change V F)}

theorem getVariable?_ofChanges {name : String} {handle : V} :
    (ofChanges changes).getVariable? name = some handle ↔ LiveVariable changes name handle := by
  rw [getVariable?, variableTable_ofChanges, Edit.getElem?_foldl, LiveVariable]

theorem getFunction?_ofChanges {name : String} {handle : F} :
    (ofChanges changes).getFunction? name = some handle ↔ LiveFunction changes name handle := by
  rw [getFunction?, functionTable_ofChanges, Edit.getElem?_foldl, LiveFunction]

/-- The names listed for a layer are the lower-case forms of those that the changes leave bound,
each once. -/
structure Lists (bindings : Bindings V F) (changes : List (Change V F)) : Prop where
  mem_variableNames : ∀ name, name ∈ bindings.variableNames ↔
    ∃ spelling handle, Text.lower spelling = name ∧ LiveVariable changes spelling handle
  nodup_variableNames : bindings.variableNames.Nodup
  mem_functionNames : ∀ name, name ∈ bindings.functionNames ↔
    ∃ spelling handle, Text.lower spelling = name ∧ LiveFunction changes spelling handle
  nodup_functionNames : bindings.functionNames.Nodup

theorem lists_ofChanges : (ofChanges changes).Lists changes where
  mem_variableNames name := by rw [variableNames, variableTable_ofChanges, Edit.mem_keys_foldl]; rfl
  nodup_variableNames := Std.TreeMap.nodup_keys
  mem_functionNames name := by rw [functionNames, functionTable_ofChanges, Edit.mem_keys_foldl]; rfl
  nodup_functionNames := Std.TreeMap.nodup_keys

end Bindings
end Formula
