import Formula.Decimal

namespace Formula.Double

/-- The number that a run of decimal digits stands for. -/
def digitsValue (digits : List Char) : Nat :=
  digits.foldl (fun n c => 10 * n + (c.toNat - '0'.toNat)) 0

/-- An exponent mark with an optional sign and at least one digit, or nothing at all. -/
def exponent? : List Char → Option Int
  | [] => some 0
  | mark :: rest =>
    let (negative, digits) := match rest with
      | '-' :: digits => (true, digits)
      | '+' :: digits => (false, digits)
      | digits => (false, digits)
    if (mark == 'e' || mark == 'E') && !digits.isEmpty && digits.all Char.isDigit then
      let n : Int := digitsValue digits
      some (if negative then -n else n)
    else
      none

/-- A numeral without a sign: digits with at most one point before, among or behind them, then an
optional exponent. -/
def numeral? (text : List Char) : Option Decimal := do
  let whole := text.takeWhile Char.isDigit
  let rest := text.dropWhile Char.isDigit
  let (places, tail) := match rest with
    | '.' :: rest => (rest.takeWhile Char.isDigit, rest.dropWhile Char.isDigit)
    | rest => ([], rest)
  if whole.isEmpty && places.isEmpty then none
  else return ⟨digitsValue (whole ++ places), (← exponent? tail) - places.length⟩

/-- The double that a text without a sign stands for. The names of infinity and of the value that
is not a number are read in any mix of cases. -/
def unsigned? (negative : Bool) (text : List Char) : Option Float :=
  let word := String.ofList (text.map Char.toLower)
  if word = "inf" || word = "infinity" then some (ofMagnitude negative infinity)
  else if word = "nan" then some nan
  else (numeral? text).map (fun d => ofMagnitude negative d.bits)

/-- The double nearest to the number that a text stands for, if it stands for one. -/
def read? (text : String) : Option Float :=
  match text.toList with
  | '-' :: rest => unsigned? true rest
  | '+' :: rest => unsigned? false rest
  | rest => unsigned? false rest

end Formula.Double
