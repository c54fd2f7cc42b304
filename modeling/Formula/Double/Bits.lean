namespace Formula.Double

/-- The weight of the sign bit. The bits below it are the magnitude. -/
def signBit : Nat := 0x8000000000000000

/-- The magnitude of the infinities. Those below it are the finite numbers, those above it are
not numbers. -/
def infinity : Nat := 0x7FF0000000000000

def magnitude (x : Float) : Nat :=
  x.toBits.toNat % signBit

def isNegative (x : Float) : Bool :=
  signBit ≤ x.toBits.toNat

def isFinite (x : Float) : Bool :=
  magnitude x < infinity

/-- The number with the given sign and magnitude. -/
def ofMagnitude (negative : Bool) (bits : Nat) : Float :=
  Float.ofBits (.ofNat (if negative then signBit + bits else bits))

def nan : Float :=
  ofMagnitude false 0x7FF8000000000000

/-- A finite magnitude counted in units of `2 ^ -1074`, the smallest positive number. Within each
block of `2 ^ 52` magnitudes neighbours lie equally far apart. From the third block on, each block
doubles that distance. -/
def units (bits : Nat) : Nat :=
  if bits < Nat.pow 2 52 then bits
  else (Nat.pow 2 52 + bits % Nat.pow 2 52) * Nat.pow 2 (bits / Nat.pow 2 52 - 1)

/-- How many units make one. -/
def unitsPerOne : Nat := Nat.pow 2 1074

end Formula.Double
