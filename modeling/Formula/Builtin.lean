import Formula.Context

namespace Formula

/-- The functions every ordinary builder starts with. -/
inductive Builtin where
  | abs
  | year
  | month
  | day
  | hour
  | minute
  | second
  | dateserial
  | timeserial
  | min
  | max
deriving DecidableEq

namespace Builtin

def all : List Builtin :=
  [abs, year, month, day, hour, minute, second, dateserial, timeserial, min, max]

def name : Builtin → String
  | abs => "abs"
  | year => "year"
  | month => "month"
  | day => "day"
  | hour => "hour"
  | minute => "minute"
  | second => "second"
  | dateserial => "dateserial"
  | timeserial => "timeserial"
  | min => "min"
  | max => "max"

def arity : Builtin → Arity
  | dateserial | timeserial => .exactly 3
  | min | max => .atLeast 1
  | _ => .exactly 1

def converted (result : Except ConversionError α) : Except EvalError α :=
  result.mapError .conversion

/-- One field of a date and time. -/
def field (read : DateTime → Int) (v : Value) : Except EvalError Value := do
  return .integer (.ofInt (read (← converted v.toDateTime)))

/-- An argument as a whole number. -/
def whole (v : Value) : Except EvalError Int := do
  return (← converted v.toInteger).toInt

/-- An argument as a whole number of 32 bits. -/
def part (v : Value) : Except EvalError Int := do
  let n ← whole v
  if -0x80000000 ≤ n ∧ n < 0x80000000 then return n
  else throw (.invalidArgument dateserial.name (.outOfRange n))

/-- Midnight of a day. -/
def dateOf (y m d : Int) : Except EvalError Value :=
  match if 0 ≤ m ∧ 0 ≤ d then Date.of? y m.toNat d.toNat else none with
  | some date => .ok (.datetime (.midnight date))
  | none => .error (.invalidArgument dateserial.name (.noDate y m d))

/-- A whole number, if it is in the range of 64-bit integers. -/
def inRange? (n : Int) : Option Int :=
  if -0x8000000000000000 ≤ n ∧ n < 0x8000000000000000 then some n else none

/-- Hours, minutes and seconds together, if the sums on the way stay in the range of 64-bit
integers. -/
def span? (h m s : Int) : Option Int := do
  let hours ← inRange? (h * 3600)
  let minutes ← inRange? (m * 60)
  inRange? ((← inRange? (hours + minutes)) + s)

/-- The time that lies so much after the start of the year 1. -/
def timeOf (h m s : Int) : Except EvalError Value := do
  match span? h m s with
  | none => throw (.invalidArgument timeserial.name .spanOutOfRange)
  | some total =>
    if total < 0 then throw (.invalidArgument timeserial.name .spanNegative)
    match DateTime.ofTotalSeconds? total.toNat with
    | some t => return .datetime t
    | none => throw (.invalidArgument timeserial.name .spanOutOfRange)

/-- The first argument that no later one beats. -/
def best (beats : Float → Float → Bool) (first : Value) (others : List Value) :
    Except EvalError Value := do
  let start ← converted first.toDouble
  .double <$> others.foldlM (fun best v => do
    let x ← converted v.toDouble
    return if beats x best then x else best) start

/-- Evaluates a function. The number of arguments is checked before any of them is converted. -/
def eval (f : Builtin) (arguments : List Value) : Except EvalError Value := do
  match f, arguments with
  | abs, [v] => return .double (← converted v.toDouble).abs
  | year, [v] => field (fun t => t.date.year) v
  | month, [v] => field (fun t => t.date.month) v
  | day, [v] => field (fun t => t.date.day) v
  | hour, [v] => field (fun t => t.hour) v
  | minute, [v] => field (fun t => t.minute) v
  | second, [v] => field (fun t => t.secondOfMinute) v
  | dateserial, [y, m, d] => dateOf (← part y) (← part m) (← part d)
  | timeserial, [h, m, s] => timeOf (← whole h) (← whole m) (← whole s)
  | min, first :: others => best (fun x y => x < y) first others
  | max, first :: others => best (fun x y => x > y) first others
  | f, arguments => throw (.argumentCount f.name f.arity arguments.length)

end Builtin

/-- A variable is bound to a value, or to a handle that is run for one. -/
inductive Variable (V : Type) where
  | constant (v : Value)
  | handle (handle : V)

/-- A function is a builtin, or a handle that is run. -/
inductive Function (F : Type) where
  | builtin (f : Builtin)
  | handle (handle : F)

/-- Runs what is bound: values and builtins by themselves, and other handles as given. -/
def Host.standard
    (readVariable : V → Context (Variable V) (Function F) → EStateM EvalError σ Value)
    (callFunction : F → Context (Variable V) (Function F) → List Value →
      EStateM EvalError σ Value) :
    Host (Variable V) (Function F) σ where
  readVariable
    | .constant v, _ => pure v
    | .handle handle, context => readVariable handle context
  callFunction
    | .builtin f, _, arguments => MonadExcept.ofExcept (f.eval arguments)
    | .handle handle, context, arguments => callFunction handle context arguments

/-- The names that are bound unless a builder starts out empty. -/
def Bindings.standard : Bindings (Variable V) (Function F) :=
  Builtin.all.foldl (fun bindings f => bindings.setFunction f.name (.builtin f))
    ((Bindings.empty.setVariable "true" (.constant (.boolean true))).setVariable "false"
      (.constant (.boolean false)))

end Formula
