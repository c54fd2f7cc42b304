import Formula.Context
import Formula.Node
import Formula.Operation

namespace Formula
namespace Node

/-- Two arguments, or one and the list of those after it. -/
def isPair (node : Node) : Bool :=
  node.kind = .arguments && node.operands.length == 2

/-- The nodes of a row that are arguments by themselves. -/
def singles (row : List Node) : List Node :=
  row.filter (fun node => !node.isPair)

/-- The operands of the pairs in a row. -/
def pairsBelow (row : List Node) : List Node :=
  rowBelow (row.filter isPair)

theorem sizes_singles_add_pairsBelow (row : List Node) :
    sizes (singles row) + (sizes (pairsBelow row) + (row.filter isPair).length) = sizes row := by
  rw [pairsBelow, sizes_rowBelow]
  induction row with
  | nil => rfl
  | cons x xs ih => cases h : isPair x <;> simp [singles, h, sizes] at ih ⊢ <;> omega

theorem sizes_pairsBelow_lt (row : List Node) (h : row.any isPair = true) :
    sizes (pairsBelow row) < sizes row := by
  have hpos : 0 < (row.filter isPair).length := by
    simpa [List.length_pos_iff, List.filter_eq_nil_iff] using h
  have hsum := sizes_singles_add_pairsBelow row
  omega

/-- The arguments in a row of nodes and then those below its pairs, row by row. -/
def argumentsFrom (found : Array Node) (row : List Node) : List Node :=
  if row.any isPair then argumentsFrom (found ++ singles row) (pairsBelow row)
  else (found ++ singles row).toList
termination_by sizes row
decreasing_by exact sizes_pairsBelow_lt row ‹_›

/-- The arguments of a call with the given operands, in the order of their evaluation. -/
def arguments (operands : List Node) : List Node :=
  argumentsFrom #[] operands

theorem sizes_argumentsFrom_le (found : Array Node) (row : List Node) :
    sizes (argumentsFrom found row) ≤ sizes found.toList + sizes row := by
  fun_induction argumentsFrom found row with
  | case1 found row h ih =>
    have hsum := sizes_singles_add_pairsBelow row
    simp only [Array.toList_appendList, sizes_append] at ih
    omega
  | case2 found row h =>
    have hsum := sizes_singles_add_pairsBelow row
    simp only [Array.toList_appendList, sizes_append]
    omega

theorem sizes_arguments_le (operands : List Node) :
    sizes (arguments operands) ≤ sizes operands := by
  simpa [sizes, arguments] using sizes_argumentsFrom_le #[] operands

/-- Turns a failed conversion into a failed evaluation. -/
def converted (result : Except ConversionError α) : EStateM EvalError σ α :=
  match result with
  | .ok a => pure a
  | .error e => throw (.conversion e)

section

variable (host : Host V F σ) (context : Context V F)

mutual

/-- Evaluates a tree. Operands are evaluated from left to right, and each is converted to what its
operator works on before the next one is evaluated. -/
def eval : Node → EStateM EvalError σ Value
  | ⟨.number, text, []⟩ => converted (Value.ofNumber text)
  | ⟨.identifier, name, []⟩ => context.read host name
  | ⟨.call, name, operands⟩ => do context.call host name (← evalAll (arguments operands))
  | ⟨.arguments, _, [_, _]⟩ => throw .unexpectedComma
  | ⟨.group, _, [inner]⟩ => eval inner
  | ⟨.sign s, _, [operand]⟩ => do converted (s.apply (← eval operand))
  | ⟨.operator op, _, [left, right]⟩ => do
    let v ← eval left
    match ← converted (op.settle? v) with
    | some result => return result
    | none => converted (op.combine v (← eval right))
  | ⟨.conditional, _, [condition, yes, no]⟩ => do
    if ← converted (← eval condition).toBoolean then eval yes else eval no
  | ⟨kind, _, operands⟩ => throw (.malformed kind (kind.arity.getD 0) operands.length)
termination_by node => 2 * node.size
decreasing_by
  all_goals simp only [size_mk, sizes]
  case _ => have := sizes_arguments_le operands; omega
  all_goals omega

/-- The values of several trees, evaluated one after the other. -/
def evalAll : List Node → EStateM EvalError σ (List Value)
  | [] => return []
  | node :: rest => do return (← eval node) :: (← evalAll rest)
termination_by nodes => 2 * sizes nodes + 1
decreasing_by
  all_goals simp only [sizes]
  · omega
  · have := size_pos node; omega

end

end

end Node
end Formula
