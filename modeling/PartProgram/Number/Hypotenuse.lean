import PartProgram.Number.Binary

namespace PartProgram.Number

/-- The square root, rounded down, of a natural below `4 ^ bits`. -/
def root : (bits : Nat) → Nat → Nat
  | 0, _ => 0
  | bits + 1, n =>
    let r := 2 * root bits (n / 4)
    if (r + 1) * (r + 1) ≤ n then r + 1 else r

def natSqrt (n : Nat) : Nat :=
  root (n.log2 / 2 + 1) n

/-- The bits of the nearest double to the root of `square`, where a unit is the least positive
double. A tie goes to even bits. Beyond the last double there is only infinity. -/
def rootBits (square : Nat) : Nat :=
  let whole := natSqrt square
  -- the doubles around the root are multiples of this power of two
  let place := whole.log2 - 52
  let below := whole / 2 ^ place
  let bits := place * 2 ^ (52 : Nat) + below
  let doubleMiddle := (2 * below + 1) * 2 ^ place
  let rounded :=
    if 4 * square < doubleMiddle * doubleMiddle then bits
    else if doubleMiddle * doubleMiddle < 4 * square then bits + 1
    else bits + bits % 2
  min rounded (2047 * 2 ^ (52 : Nat))

/-- The nearest double to `√(x² + y²)`. An infinite leg makes it infinite, whatever the other. -/
def hypotenuse (x y : Float) : Float :=
  if x.isInf || y.isInf then 1.0 / 0.0
  else if x.isNaN || y.isNaN then 0.0 / 0.0
  else
    let a := (Binary.ofFloat x).units
    let b := (Binary.ofFloat y).units
    .ofBits (.ofNat (rootBits (a * a + b * b)))

end PartProgram.Number
