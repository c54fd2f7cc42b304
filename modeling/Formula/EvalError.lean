import Formula.Kind
import Formula.Value

namespace Formula

/-- How many arguments a function takes. -/
inductive Arity where
  | exactly (n : Nat)
  | atLeast (n : Nat)
deriving DecidableEq

def Arity.text : Arity → String
  | .exactly n => toString n
  | .atLeast n => s!"at least {n}"

/-- What a function finds wrong with its arguments. -/
inductive ArgumentFault where
  | outOfRange (n : Int)
  | noDate (year month day : Int)
  | spanOutOfRange
  | spanNegative
  | other (text : String)

def ArgumentFault.message : ArgumentFault → String
  | .outOfRange n => s!"argument {n} is out of range"
  | .noDate year month day => s!"{year}-{month}-{day} is not a valid date"
  | .spanOutOfRange => "time span is out of range"
  | .spanNegative => "time span is negative"
  | .other text => text

/-- Why an expression has no value. -/
inductive EvalError where
  | undefinedVariable (name : String)
  | undefinedFunction (name : String)
  | argumentCount (function : String) (expected : Arity) (found : Nat)
  | invalidArgument (function : String) (fault : ArgumentFault)
  /-- A value that an operator or a function cannot work on. -/
  | conversion (cause : ConversionError)
  /-- The same, as the evaluation of a whole expression reports it. -/
  | argumentConversion (cause : ConversionError)
  /-- A list of arguments outside of a call. -/
  | unexpectedComma
  | operandCount (kind : Kind) (expected found : Nat)
  | unexpectedOperands (kind : Kind) (found : Nat)

namespace EvalError

def message : EvalError → String
  | .undefinedVariable name => s!"variable {name} is undefined"
  | .undefinedFunction name => s!"function {name} is undefined"
  | .argumentCount function expected found =>
    s!"function {function} expects {expected.text} arguments but found {found} arguments"
  | .invalidArgument function fault => s!"function {function}: {fault.message}"
  | .conversion cause => cause.message
  | .argumentConversion cause => s!"failed to parse argument: {cause.message}"
  | .unexpectedComma => "unexpected comma"
  | .operandCount kind expected found =>
    s!"internal error: {kind.name} node expects {expected} operands but has {found}"
  | .unexpectedOperands kind found =>
    s!"internal error: {kind.name} node must not have children but has {found}"

/-- The error as the evaluation of a whole expression reports it. -/
def atBoundary : EvalError → EvalError
  | .conversion cause => .argumentConversion cause
  | e => e

/-- A node whose operands are not as many as its kind wants. -/
def malformed (kind : Kind) (expected found : Nat) : EvalError :=
  if expected = 0 then .unexpectedOperands kind found else .operandCount kind expected found

end EvalError
end Formula
