import Formula.Double.Nearest

namespace Formula

/-- The decimal number `digits * 10 ^ exponent`. -/
structure Decimal where
  digits : Nat
  exponent : Int
deriving DecidableEq

/-- The magnitude of the nearest double, a tie going to the even one. Where the exponent alone
shows that the number is too large or rounds to zero, its power of ten is not computed. -/
def Decimal.bits : Decimal → Nat
  | ⟨0, _⟩ => 0
  | ⟨digits, .ofNat e⟩ =>
    if e > 400 then Double.infinity else Double.nearest (digits * Nat.pow 10 e) 1
  | ⟨digits, .negSucc e⟩ =>
    if e > digits.log2 + 400 then 0 else Double.nearest digits (Nat.pow 10 (e + 1))

end Formula
