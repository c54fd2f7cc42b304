import Formula.Double.Bits

namespace Formula.Double

/-- The whole number nearest to `num / den`. A half goes to the even neighbour. -/
def roundEven (num den : Nat) : Nat :=
  let q := num / den
  let r := num % den
  if 2 * r < den then q
  else if den < 2 * r then q + 1
  else q + q % 2

/-- The magnitude nearest to `num / den`, a tie going to the even one. The 53 leading binary
digits of the quotient are kept, and fewer where the last of them would fall below one unit.
A carry out of the top digit moves on to the next block by itself, and whatever rounds to a
magnitude past the last finite one is infinite. -/
def nearest (num den : Nat) : Nat :=
  let block := (num * unitsPerOne / den).log2 - 52
  min infinity (block * Nat.pow 2 52 + roundEven (num * unitsPerOne) (den * Nat.pow 2 block))

/-- The whole number nearest to a finite number, a half going to the even neighbour. -/
def nearestInt (x : Float) : Option Int :=
  if isFinite x then
    let n : Int := roundEven (units (magnitude x)) unitsPerOne
    some (if isNegative x then -n else n)
  else
    none

end Formula.Double
