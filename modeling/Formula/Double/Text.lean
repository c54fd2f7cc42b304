import Formula.Double.Shortest

namespace Formula.Double

/-- How finite numbers are written. -/
structure Layout where
  /-- Whether a number is written without an exponent when its first digit stands at this power
  of ten. -/
  positional : Int → Bool
  /-- What follows a whole number that is written without an exponent. -/
  wholeEnd : String
  tie : Tie

/-- Digits with the point put in, or zeros where the digits do not reach it. -/
def positionalText (wholeEnd : String) (digits : List Char) : Int → String
  | .ofNat zeros => .ofList (digits ++ List.replicate zeros '0') ++ wholeEnd
  | .negSucc n =>
    let places := n + 1
    if places < digits.length then
      let whole := digits.length - places
      .ofList (digits.take whole ++ '.' :: digits.drop whole)
    else
      "0." ++ .ofList (List.replicate (places - digits.length) '0' ++ digits)

/-- One digit, the others behind a point, and the power of ten of the first with its sign. -/
def scientificText (digits : List Char) (power : Int) : String :=
  let lead := match digits with
    | first :: rest@(_ :: _) => first :: '.' :: rest
    | _ => digits
  .ofList lead ++ (if power < 0 then "e-" else "e+") ++ toString power.natAbs

/-- The text of a finite magnitude. -/
def Layout.write (layout : Layout) (bits : Nat) : String :=
  let d := shortest layout.tie bits
  let digits := (toString d.digits).toList
  let power := d.exponent + digits.length - 1
  if layout.positional power then positionalText layout.wholeEnd digits d.exponent
  else scientificText digits power

/-- A minus sign where the number has one, zero included, and its magnitude. -/
def Layout.writeSigned (layout : Layout) (x : Float) : String :=
  (if isNegative x then "-" else "") ++ layout.write (magnitude x)

end Formula.Double
