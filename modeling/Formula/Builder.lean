import Formula.Builtin
import Formula.Evaluation
import Formula.Parser

namespace Formula

/-- A parsed tree and the names it is evaluated with. -/
structure Expression (V F : Type) where
  root : Node
  context : Context V F

namespace Expression

/-- The variables that the tree refers to anywhere, in lower case. -/
def variableNames (expression : Expression V F) : Names :=
  expression.root.namesOf .identifier

/-- The functions that the tree calls anywhere, in lower case. -/
def functionNames (expression : Expression V F) : Names :=
  expression.root.namesOf .call

def change (expression : Expression V F) (change : Change V F) : Expression V F :=
  { expression with context := expression.context.change change }

/-- Evaluates the tree. A conversion that fails on the way counts as a fault of an argument. -/
def eval (host : Host V F σ) (expression : Expression V F) : EStateM EvalError σ Value :=
  EStateM.adaptExcept EvalError.atBoundary (expression.root.eval host expression.context)

end Expression

/-- What a text comes to grief on. -/
inductive Failure where
  | syntaxError (e : SyntaxError)
  | eval (e : EvalError)

/-- Default bindings and the depth to which expressions may be nested. -/
structure Builder (V F : Type) where
  defaults : Bindings V F := {}
  limit : Nat := Parser.defaultLimit

namespace Builder

/-- A builder without any bindings. -/
def empty : Builder V F := {}

/-- A builder with the bindings of the language. -/
def standard : Builder (Variable V) (Function F) :=
  { defaults := .standard }

def change (builder : Builder V F) (change : Change V F) : Builder V F :=
  { builder with defaults := builder.defaults.change change }

/-- A context over the defaults as they are now. -/
def context (builder : Builder V F) : Context V F :=
  { defaults := builder.defaults }

def parse (builder : Builder V F) (text : String) : Except SyntaxError (Expression V F) := do
  match Parser.parse (← Parser.start? builder.limit (.ofText text)) with
  | .ok root _ => return ⟨root, builder.context⟩
  | .error e _ => throw e

/-- Parses and evaluates a text. -/
def eval (host : Host V F σ) (builder : Builder V F) (text : String) : EStateM Failure σ Value :=
  match builder.parse text with
  | .ok expression => EStateM.adaptExcept .eval (expression.eval host)
  | .error e => throw (.syntaxError e)

end Builder
end Formula
