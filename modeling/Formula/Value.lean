import Formula.Calendar
import Formula.Double.Text
import Formula.Double.Numeral

namespace Formula

/-- What an expression evaluates to. -/
inductive Value where
  | double (x : Float)
  | integer (n : Int64)
  | boolean (b : Bool)
  | datetime (t : DateTime)

inductive ValueType where
  | double
  | integer
  | boolean
  | datetime
deriving DecidableEq

def ValueType.name : ValueType → String
  | .double => "double"
  | .integer => "integer"
  | .boolean => "boolean"
  | .datetime => "datetime"

/-- Why a value has no counterpart of another type. -/
inductive ConversionError where
  | invalidCast (source target : ValueType)
  | format (text : String)
  | outOfRange (x : Float)

/-- A number closer to zero than a hundred times the smallest positive double. -/
def nearZero (x : Float) : Bool :=
  x.abs < Float.ofBits 100

namespace Value

def type : Value → ValueType
  | .double _ => .double
  | .integer _ => .integer
  | .boolean _ => .boolean
  | .datetime _ => .datetime

/-- Doubles are told apart as numbers: the two zeros are equal, and what is not a number differs
even from itself. Values of different types differ. -/
def same : Value → Value → Bool
  | .double x, .double y => x == y
  | .integer m, .integer n => m == n
  | .boolean a, .boolean b => a == b
  | .datetime t, .datetime u => t == u
  | _, _ => false

def toDouble : Value → Except ConversionError Float
  | .double x => .ok x
  | .integer n => .ok n.toFloat
  | .boolean b => .ok (if b then 1 else 0)
  | v@(.datetime _) => .error (.invalidCast v.type .double)

/-- A double is rounded, a half going to the even neighbour, and has to be finite and in the range
of the integers. -/
def toInteger : Value → Except ConversionError Int64
  | .integer n => .ok n
  | .boolean b => .ok (if b then 1 else 0)
  | .double x =>
    match Double.nearestInt x with
    | some n =>
      if -0x8000000000000000 ≤ n ∧ n < 0x8000000000000000 then .ok (.ofInt n)
      else .error (.outOfRange x)
    | none => .error (.outOfRange x)
  | v@(.datetime _) => .error (.invalidCast v.type .integer)

/-- Numbers are true unless they are zero. -/
def toBoolean : Value → Except ConversionError Bool
  | .boolean b => .ok b
  | .integer n => .ok (n != 0)
  | .double x => .ok (x != 0)
  | v@(.datetime _) => .error (.invalidCast v.type .boolean)

def toDateTime : Value → Except ConversionError DateTime
  | .datetime t => .ok t
  | v => .error (.invalidCast v.type .datetime)

/-- The value of the text of a number literal. -/
def ofNumber (text : String) : Except ConversionError Value :=
  match Double.read? text with
  | some x => .ok (.double x)
  | none => .error (.format text)

/-- Doubles are displayed without an exponent, whole ones without a point, and the upper one of
two equally near decimals is taken. -/
def displayed : Double.Layout := ⟨fun _ => true, "", .up⟩

def doubleText (x : Float) : String :=
  if Double.isFinite x then displayed.writeSigned x
  else if x.isNaN then "NaN"
  else if Double.isNegative x then "-inf"
  else "inf"

def toText : Value → String
  | .double x => doubleText x
  | .integer n => toString n.toInt
  | .boolean b => if b then "true" else "false"
  | .datetime t => t.toText

/-- In JSON a double has an exponent outside the range from `1e-5` to `1e16`, a whole one shows
that it is a double, and of two equally near decimals the even one is taken. -/
def serialized : Double.Layout := ⟨fun power => -5 ≤ power && power < 16, ".0", .even⟩

/-- The JSON form. Infinities and what is not a number have none and become `null`. -/
def toJson : Value → String
  | .double x => if Double.isFinite x then serialized.writeSigned x else "null"
  | v@(.datetime _) => "\"" ++ v.toText ++ "\""
  | v => v.toText

end Value

def ConversionError.message : ConversionError → String
  | .invalidCast source target => s!"cannot convert {source.name} to {target.name}"
  | .format text => s!"'{text}' is not a valid number"
  | .outOfRange x => s!"{Value.doubleText x} is out of range for integer"

end Formula
