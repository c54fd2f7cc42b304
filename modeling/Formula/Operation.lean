import Formula.Kind
import Formula.Value

namespace Formula

/-- The value of a sign in front of a value. A plus leaves it as it is. -/
def Sign.apply (s : Sign) (v : Value) : Except ConversionError Value :=
  match s with
  | .plus => .ok v
  | .minus => return .double (-(← v.toDouble))
  | .not => return .boolean (!(← v.toBoolean))

namespace Operator

/-- Division toward zero. Where the quotient is no 64-bit integer the doubles are divided. -/
def divideIntegers (m n : Int64) : Value :=
  if n = 0 ∨ (m = Int64.minValue ∧ n = -1) then .double (m.toFloat / n.toFloat)
  else .integer (m / n)

/-- Looks at the left operand before the right one is evaluated. It has to be of use to the
operator, and a product whose left factor is as good as zero is settled by it alone. -/
def settle? (op : Operator) (left : Value) : Except ConversionError (Option Value) :=
  match op with
  | multiply => return if nearZero (← left.toDouble) then some (.double 0) else none
  | quotient => do
    let _ ← left.toInteger
    return none
  | and | or => do
    let _ ← left.toBoolean
    return none
  | _ => do
    let _ ← left.toDouble
    return none

def arithmetic (f : Float → Float → Float) (left right : Value) : Except ConversionError Value :=
  return .double (f (← left.toDouble) (← right.toDouble))

def comparison (f : Float → Float → Bool) (left right : Value) : Except ConversionError Value :=
  return .boolean (f (← left.toDouble) (← right.toDouble))

def logical (f : Bool → Bool → Bool) (left right : Value) : Except ConversionError Value :=
  return .boolean (f (← left.toBoolean) (← right.toBoolean))

/-- The value of an operator between two values. Numbers are equal when their difference is as good
as zero. -/
def combine : Operator → Value → Value → Except ConversionError Value
  | power => arithmetic Float.pow
  | multiply => arithmetic (· * ·)
  | divide => arithmetic (· / ·)
  | quotient => fun left right => return divideIntegers (← left.toInteger) (← right.toInteger)
  | add => arithmetic (· + ·)
  | subtract => arithmetic (· - ·)
  | less => comparison (fun x y => x < y)
  | lessEqual => comparison (fun x y => x ≤ y)
  | greater => comparison (fun x y => x > y)
  | greaterEqual => comparison (fun x y => x ≥ y)
  | equal => comparison (fun x y => nearZero (x - y))
  | notEqual => comparison (fun x y => !nearZero (x - y))
  | and => logical (· && ·)
  | or => logical (· || ·)

end Operator
end Formula
