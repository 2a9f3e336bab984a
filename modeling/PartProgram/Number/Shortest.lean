import PartProgram.Number.Decimal

namespace PartProgram.Number

namespace Binary

/-- The decimal rounds to the value. The reals that do so reach halfway to the next doubles; the
ends belong to the value iff its significand is even. -/
def isReadFrom (b : Binary) (d : Decimal) : Bool :=
  let quarter (n : Nat) : Ratio := (Ratio.mk n 1).scale 2 (b.exponent - 2)
  let low := quarter (4 * b.significand - if b.narrowBelow then 1 else 2)
  let high := quarter (4 * b.significand + 2)
  if b.significand % 2 = 0 then low.le d.ratio && d.ratio.le high
  else !d.ratio.le low && !high.le d.ratio

/-- The decimal of `n` digits that is nearest to the value among those that read back as it. Only
the two neighbours of the value are candidates: if any decimal of that length lies among the reals
that round to the value, one of the two does. -/
def nearest? (b : Binary) (order : Int) (tie : Tie) (n : Nat) : Option Decimal :=
  let exponent := order + 1 - n
  let r := b.ratio.scale 10 (-exponent)
  let below : Decimal := ⟨r.num / r.den, exponent⟩
  let above : Decimal := ⟨r.num / r.den + 1, exponent⟩
  match b.isReadFrom below, b.isReadFrom above with
  | true, true => some ⟨r.round tie, exponent⟩
  | true, false => some below
  | false, true => some above
  | false, false => none

/-- Zeros at the end go into the exponent, at most `fuel` of them. -/
def dropZeros : (fuel : Nat) → Decimal → Decimal
  | 0, d => d
  | fuel + 1, d =>
    if d.significand % 10 = 0 then dropZeros fuel ⟨d.significand / 10, d.exponent + 1⟩ else d

/-- The fewest digits that read back as the value, and of those the nearest to it. Seventeen
digits always do. -/
def shortest (tie : Tie) (b : Binary) : Decimal :=
  if b.significand = 0 then ⟨0, 0⟩
  else
    let order := b.ratio.order
    match (List.range 17).findSome? fun n => b.nearest? order tie (n + 1) with
    | some d => dropZeros 17 d
    | none => .ofRatio b.ratio 17 tie

end Binary

end PartProgram.Number
