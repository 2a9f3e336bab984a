import PartProgram.Number.Power

namespace PartProgram.Number

/-- Where a value halfway between two neighbours goes. -/
inductive Tie where
  | toEven
  | up
deriving DecidableEq, Repr

/-- The quotient `num / den`, not reduced. -/
structure Ratio where
  num : Nat
  den : Nat
deriving DecidableEq, Repr

namespace Ratio

def scale (r : Ratio) (base : Nat) (e : Int) : Ratio :=
  ⟨r.num * base ^ e.toNat, r.den * base ^ (-e).toNat⟩

def le (r s : Ratio) : Bool :=
  r.num * s.den ≤ s.num * r.den

def round (r : Ratio) (tie : Tie) : Nat :=
  if 2 * (r.num % r.den) < r.den then r.num / r.den
  else if r.den < 2 * (r.num % r.den) then r.num / r.den + 1
  else match tie with
    | .toEven => r.num / r.den + r.num / r.den % 2
    | .up => r.num / r.den + 1

/-- The exponent of the first decimal digit: the largest `k` with `10 ^ k ≤ r`, for a positive
ratio. The lengths of both sides leave only two candidates. -/
def order (r : Ratio) : Int :=
  let k : Int := (Nat.toDigits 10 r.num).length - (Nat.toDigits 10 r.den).length
  if (Ratio.mk 1 1 |>.scale 10 k).le r then k else k - 1

end Ratio

end PartProgram.Number
