namespace Formula

/-- Operators in front of their operand. -/
inductive Sign where
  | plus
  | minus
  | not
deriving DecidableEq

/-- Operators between two operands. -/
inductive Operator where
  | power
  | multiply
  | divide
  | quotient
  | add
  | subtract
  | less
  | lessEqual
  | greater
  | greaterEqual
  | equal
  | notEqual
  | and
  | or
deriving DecidableEq

/-- What a node of an expression tree stands for. -/
inductive Kind where
  | number
  | identifier
  | call
  /-- The first of several arguments and the others. -/
  | arguments
  /-- An expression in brackets of any style. -/
  | group
  | sign (s : Sign)
  | operator (op : Operator)
  | conditional
deriving DecidableEq

/-- How many operands a node has, where its kind fixes that. -/
def Kind.arity : Kind → Option Nat
  | .number | .identifier => some 0
  | .call => none
  | .group | .sign _ => some 1
  | .arguments | .operator _ => some 2
  | .conditional => some 3

def Sign.name : Sign → String
  | .plus => "unary plus"
  | .minus => "unary minus"
  | .not => "not"

def Operator.name : Operator → String
  | .power => "power"
  | .multiply => "multiply"
  | .divide => "divide"
  | .quotient => "integer divide"
  | .add => "add"
  | .subtract => "subtract"
  | .less => "less than"
  | .lessEqual => "less or equal"
  | .greater => "greater than"
  | .greaterEqual => "greater or equal"
  | .equal => "equal"
  | .notEqual => "not equal"
  | .and => "and"
  | .or => "or"

def Kind.name : Kind → String
  | .number => "number"
  | .identifier => "identifier"
  | .call => "function call"
  | .arguments => "function arguments"
  | .group => "group"
  | .sign s => s.name
  | .operator op => op.name
  | .conditional => "conditional"

def Sign.label : Sign → String
  | .plus => "Plus"
  | .minus => "Minus"
  | .not => "Not"

def Operator.label : Operator → String
  | .power => "Pow"
  | .multiply => "Mul"
  | .divide => "Div"
  | .quotient => "IntDiv"
  | .add => "Add"
  | .subtract => "Sub"
  | .less => "Lt"
  | .lessEqual => "Le"
  | .greater => "Gt"
  | .greaterEqual => "Ge"
  | .equal => "Eq"
  | .notEqual => "Ne"
  | .and => "And"
  | .or => "Or"

/-- The short label of a kind in inspection texts. -/
def Kind.label : Kind → String
  | .number => "Number"
  | .identifier => "Identifier"
  | .call => "FunctionCall"
  | .arguments => "FunctionArgs"
  | .group => "NoOp"
  | .sign s => s.label
  | .operator op => op.label
  | .conditional => "Conditional"

/-- All kinds, operands first. -/
def Kind.all : List Kind :=
  [.number, .identifier, .call, .arguments, .group, .sign .plus, .sign .minus, .sign .not,
   .operator .power, .operator .multiply, .operator .divide, .operator .quotient, .operator .add,
   .operator .subtract, .operator .less, .operator .lessEqual, .operator .greater,
   .operator .greaterEqual, .operator .equal, .operator .notEqual, .operator .and, .operator .or,
   .conditional]

def Kind.ofLabel? (label : String) : Option Kind :=
  Kind.all.find? (fun kind => kind.label == label)

end Formula
