import PartProgram.Number.Binary

namespace PartProgram.Number

/-- The number `significand · 10 ^ exponent`. -/
structure Decimal where
  significand : Nat
  exponent : Int
deriving DecidableEq, Repr

namespace Decimal

def digits (d : Decimal) : List Char :=
  Nat.toDigits 10 d.significand

/-- The exponent of the first digit. -/
def order (d : Decimal) : Int :=
  d.exponent + d.digits.length - 1

def ratio (d : Decimal) : Ratio :=
  (Ratio.mk d.significand 1).scale 10 d.exponent

/-- A positive ratio to `n` significant digits. -/
def ofRatio (r : Ratio) (n : Nat) (tie : Tie) : Decimal :=
  let exponent := r.order + 1 - n
  let significand := (r.scale 10 (-exponent)).round tie
  if significand < 10 ^ n then ⟨significand, exponent⟩ else ⟨significand / 10, exponent + 1⟩

end Decimal

/-- How a number is written: positionally where the exponent of its first digit lies in a range,
else with an exponent. -/
structure Layout where
  positionalFrom : Int
  positionalBelow : Int
  /-- A whole number written positionally ends in `.0`. -/
  pointZero : Bool
  /-- An exponent that is not negative has a sign. -/
  plus : Bool
deriving DecidableEq, Repr

namespace Layout

/-- The digits with a point after the first `whole` of them. -/
def pointed (digits : List Char) (whole : Nat) : String :=
  if digits.length ≤ whole then String.ofList digits
  else String.ofList (digits.take whole ++ '.' :: digits.drop whole)

/-- One digit, the point, the other digits, the exponent. -/
def withExponent (l : Layout) (digits : List Char) (order : Int) : String :=
  pointed digits 1 ++ "e" ++ (if l.plus && 0 ≤ order then "+" else "") ++ toString order

def positional (l : Layout) (digits : List Char) (order : Int) : String :=
  if order < 0 then pointed (List.replicate (-order).toNat '0' ++ digits) 1
  else if digits.length ≤ order.toNat + 1 then
    String.ofList (digits ++ List.replicate (order.toNat + 1 - digits.length) '0') ++
      if l.pointZero then ".0" else ""
  else pointed digits (order.toNat + 1)

def write (l : Layout) (d : Decimal) : String :=
  if l.positionalFrom ≤ d.order && d.order < l.positionalBelow then l.positional d.digits d.order
  else l.withExponent d.digits d.order

end Layout

/-- A magnitude with the given number of places, which is not zero; a tie goes to the even
neighbour. -/
def fixedPlaces (places : Nat) (b : Binary) : String :=
  let digits := Nat.toDigits 10 ((b.ratio.scale 10 places).round .toEven)
  let padded := List.replicate (places + 1 - digits.length) '0' ++ digits
  Layout.pointed padded (padded.length - places)

/-- A magnitude with one digit before the point and the given number after it; a tie goes to the
even neighbour. -/
def scientific (places : Nat) (b : Binary) : String :=
  let layout : Layout := ⟨0, 0, false, false⟩
  if b.significand = 0 then layout.withExponent (List.replicate (places + 1) '0') 0
  else layout.write (.ofRatio b.ratio (places + 1) .toEven)

end PartProgram.Number
