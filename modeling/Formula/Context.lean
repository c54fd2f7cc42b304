import Formula.Bindings
import Formula.EvalError

namespace Formula

/-- The names that an expression sees: its own layer of overrides, and the defaults below it as
they were when the context was made. -/
structure Context (V F : Type) where
  defaults : Bindings V F
  overrides : Bindings V F := {}

/-- How handles are run. They see the context they are run in and may change a state. -/
structure Host (V F σ : Type) where
  readVariable : V → Context V F → EStateM EvalError σ Value
  callFunction : F → Context V F → List Value → EStateM EvalError σ Value

namespace Context

def getVariable? (context : Context V F) (name : String) : Option V :=
  context.overrides.getVariable? name <|> context.defaults.getVariable? name

def getFunction? (context : Context V F) (name : String) : Option F :=
  context.overrides.getFunction? name <|> context.defaults.getFunction? name

def change (context : Context V F) (change : Change V F) : Context V F :=
  { context with overrides := context.overrides.change change }

/-- The value of a variable. Its handle is run at each reference. -/
def read (host : Host V F σ) (context : Context V F) (name : String) :
    EStateM EvalError σ Value :=
  match context.getVariable? name with
  | some handle => host.readVariable handle context
  | none => throw (.undefinedVariable name)

/-- The value of a function at some arguments. -/
def call (host : Host V F σ) (context : Context V F) (name : String) (arguments : List Value) :
    EStateM EvalError σ Value :=
  match context.getFunction? name with
  | some handle => host.callFunction handle context arguments
  | none => throw (.undefinedFunction name)

end Context
end Formula
