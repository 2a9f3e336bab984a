import PartProgram.Number.Ratio

namespace PartProgram.Number

/-- The number `significand · 2 ^ exponent`. -/
structure Binary where
  significand : Nat
  exponent : Int
deriving DecidableEq, Repr

/-- The sign bit, which a zero has too. -/
def isNegative (x : Float) : Bool :=
  2 ^ (63 : Nat) ≤ x.toBits.toNat

namespace Binary

/-- Means the magnitude of a finite value only. -/
def ofFloat (x : Float) : Binary :=
  let bits : Nat := x.toBits.toNat
  let fraction : Nat := bits % 2 ^ (52 : Nat)
  let field : Nat := bits / 2 ^ (52 : Nat) % 2 ^ (11 : Nat)
  if field = 0 then ⟨fraction, -1074⟩ else ⟨2 ^ (52 : Nat) + fraction, field - 1075⟩

def ratio (b : Binary) : Ratio :=
  (Ratio.mk b.significand 1).scale 2 b.exponent

def whole (b : Binary) : Nat :=
  b.ratio.num / b.ratio.den

/-- The gap to the next smaller double is half the gap to the next larger one. -/
def narrowBelow (b : Binary) : Bool :=
  b.significand == 2 ^ (52 : Nat) && -1074 < b.exponent

/-- How many times the least positive double `2 ^ (-1074)` it is. -/
def units (b : Binary) : Nat :=
  b.significand * 2 ^ (b.exponent + 1074).toNat

end Binary

/-- The whole part, kept within 32 bits with a sign; NaN has none and counts as zero. An infinity
has the bits of a magnitude beyond that range. -/
def toCode (x : Float) : Int :=
  if x.isNaN then 0
  else if isNegative x then -(min (Binary.ofFloat x).whole (2 ^ (31 : Nat)) : Nat)
  else (min (Binary.ofFloat x).whole (2 ^ (31 : Nat) - 1) : Nat)

/-- The text of a value whose finite magnitudes are written by `finite`. -/
def signed (finite : Binary → String) (x : Float) : String :=
  if x.isNaN then "NaN"
  else (if isNegative x then "-" else "") ++ if x.isInf then "inf" else finite (.ofFloat x)

end PartProgram.Number
