import Formula.Decimal

namespace Formula.Double

/-- Which of two equally near decimals is taken. -/
inductive Tie where
  | up
  | even

/-- The two neighbours of a magnitude among the decimals of `count` digits, where `lead` holds its
leading decimal digits, `width` of them, and the last of these stands for `10 ^ -400`. -/
def neighbours (lead width count : Nat) : Decimal × Decimal :=
  let low := lead / Nat.pow 10 (width - count)
  let exponent : Int := (width : Int) - count - 400
  (⟨low, exponent⟩, if low + 1 = Nat.pow 10 count then ⟨1, exponent + count⟩
    else ⟨low + 1, exponent⟩)

/-- Whether the midpoint of two neighbours lies above, at or below the magnitude. -/
def compareMidpoint (bits lead width count : Nat) : Ordering :=
  let step := Nat.pow 10 (width - count)
  compare ((2 * (lead / step) + 1) * step * unitsPerOne) (2 * units bits * Nat.pow 10 400)

/-- The nearest decimal of `count` digits that reads back as the magnitude. -/
def readable? (tie : Tie) (bits lead width count : Nat) : Option Decimal :=
  let (low, high) := neighbours lead width count
  match low.bits == bits, high.bits == bits with
  | false, false => none
  | true, false => some low
  | false, true => some high
  | true, true =>
    match compareMidpoint bits lead width count, tie with
    | .gt, _ => some low
    | .lt, _ => some high
    | .eq, .up => some high
    | .eq, .even => some (if low.digits % 2 = 0 then low else high)

/-- The decimal with the fewest digits that reads back as a finite magnitude, and the nearest one
of these. Seventeen digits always suffice, so the exact expansion is never needed. -/
def shortest (tie : Tie) (bits : Nat) : Decimal :=
  if bits = 0 then ⟨0, 0⟩
  else
    let lead := units bits * Nat.pow 10 400 / unitsPerOne
    let width := (toString lead).length
    let found := (List.range 17).findSome? (fun n => readable? tie bits lead width (n + 1))
    found.getD ⟨units bits * Nat.pow 5 1074, -1074⟩

end Formula.Double
