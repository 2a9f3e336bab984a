namespace PartProgram.Number

/-- The number that digits spell. -/
def ofDigits (digits : List Char) : Nat :=
  digits.foldl (fun n c => 10 * n + (c.toNat - '0'.toNat)) 0

def digitValue? (base : Nat) (c : Char) : Option Nat :=
  let value :=
    if c.isDigit then c.toNat - '0'.toNat
    else if 'a' ≤ c && c ≤ 'f' then c.toNat - 'a'.toNat + 10
    else if 'A' ≤ c && c ≤ 'F' then c.toNat - 'A'.toNat + 10
    else base
  if value < base then some value else none

/-- What follows the whole part: nothing, or a point and digits. -/
def fraction? : List Char → Option (List Char)
  | [] => some []
  | '.' :: digits => if digits.all Char.isDigit then some digits else none
  | _ => none

/-- The nearest double to a number without a sign, which has at least one digit. -/
def magnitude? (text : List Char) : Option Float :=
  let whole := text.takeWhile Char.isDigit
  match fraction? (text.dropWhile Char.isDigit) with
  | some fraction =>
    if whole.isEmpty && fraction.isEmpty then none
    else some (Float.ofScientific (ofDigits (whole ++ fraction)) true fraction.length)
  | none => none

/-- The nearest double. A minus keeps its sign on a zero. -/
def read? : List Char → Option Float
  | '+' :: text => magnitude? text
  | '-' :: text => (magnitude? text).map (-·)
  | text => magnitude? text

theorem read?_nil : read? [] = none := rfl

end PartProgram.Number
