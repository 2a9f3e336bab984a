import PartProgram.Number.Literal
import PartProgram.Number.Power
import PartProgram.Toml.Value

namespace PartProgram.Toml

/-- The digits of a number, with underscores only between two digits taken out. -/
def digits? (isDigit : Char → Bool) : List Char → Option (List Char)
  | [c] => if isDigit c then some [c] else none
  | c :: '_' :: rest => if isDigit c then (digits? isDigit rest).map (c :: ·) else none
  | c :: rest => if isDigit c then (digits? isDigit rest).map (c :: ·) else none
  | [] => none

/-- Decimal digits without a zero in front, except for zero itself. -/
def decimal? (text : List Char) : Option (List Char) :=
  match digits? Char.isDigit text with
  | some ['0'] => some ['0']
  | some ('0' :: _) => none
  | digits => digits

def natural? (base : Nat) (text : List Char) : Option Nat := do
  let digits ← digits? (fun c => (Number.digitValue? base c).isSome) text
  let values ← digits.mapM (Number.digitValue? base)
  return values.foldl (base * · + ·) 0

/-- A sign in front, whether it is a minus, and the rest. -/
def splitMinus : List Char → Bool × List Char
  | '+' :: rest => (false, rest)
  | '-' :: rest => (true, rest)
  | rest => (false, rest)

/-- An integer that 128 bits hold, with or without a sign bit. -/
def integer? (text : List Char) : Option Int := do
  let value : Int ← match text with
    | '0' :: 'x' :: rest => natural? 16 rest
    | '0' :: 'o' :: rest => natural? 8 rest
    | '0' :: 'b' :: rest => natural? 2 rest
    | text =>
      let (minus, rest) := splitMinus text
      let magnitude : Int ← (decimal? rest).map fun digits => Number.ofDigits digits
      pure (if minus then -magnitude else magnitude)
  if -2 ^ (127 : Nat) ≤ value ∧ value < 2 ^ (128 : Nat) then some value else none

/-- The digits after the point of a float, none if there is no point. -/
def places? : List Char → Option (List Char)
  | [] => some []
  | '.' :: rest => digits? Char.isDigit rest
  | _ => none

/-- The exponent of a float, zero if there is none. -/
def exponent? : List Char → Option Int
  | [] => some 0
  | _ :: rest =>
    let (minus, rest) := splitMinus rest
    (digits? Char.isDigit rest).map fun digits =>
      if minus then -(Number.ofDigits digits : Int) else Number.ofDigits digits

/-- A finite float with a point or an exponent. -/
def magnitude? (text : List Char) : Option Float := do
  let isMark (c : Char) := c == 'e' || c == 'E'
  guard (text.any fun c => c == '.' || isMark c)
  let mantissa := text.takeWhile fun c => !isMark c
  let isWhole (c : Char) := c != '.'
  let whole ← decimal? (mantissa.takeWhile isWhole)
  let places ← places? (mantissa.dropWhile isWhole)
  let exponent ← exponent? (text.dropWhile fun c => !isMark c)
  let exponent := exponent - places.length
  let value :=
    Float.ofScientific (Number.ofDigits (whole ++ places)) (exponent < 0) exponent.natAbs
  if value.isFinite then some value else none

def float? (text : List Char) : Option Float :=
  let (minus, rest) := splitMinus text
  let value :=
    if rest = ['i', 'n', 'f'] then some (1.0 / 0.0)
    else if rest = ['n', 'a', 'n'] then some (0.0 / 0.0)
    else magnitude? rest
  value.map fun v => if minus then -v else v

/-- Two digits, the number they spell and the rest. -/
def twoDigits? : List Char → Option (Nat × List Char)
  | a :: b :: rest =>
    if a.isDigit && b.isDigit then some (Number.ofDigits [a, b], rest) else none
  | _ => none

def isLeapYear (year : Nat) : Bool :=
  year % 4 == 0 && (year % 100 != 0 || year % 400 == 0)

def daysIn (year month : Nat) : Nat :=
  if month = 2 then if isLeapYear year then 29 else 28
  else if month = 4 ∨ month = 6 ∨ month = 9 ∨ month = 11 then 30
  else 31

/-- What follows a date in front of the text. -/
def afterDate? (text : List Char) : Option (List Char) := do
  let (century, rest) ← twoDigits? text
  let (year, rest) ← twoDigits? rest
  let '-' :: rest := rest | none
  let (month, rest) ← twoDigits? rest
  let '-' :: rest := rest | none
  let (day, rest) ← twoDigits? rest
  if 1 ≤ month ∧ month ≤ 12 ∧ 1 ≤ day ∧ day ≤ daysIn (100 * century + year) month then some rest
  else none

/-- What follows a second and its fraction. -/
def afterSecond? (text : List Char) : Option (List Char) := do
  let (second, rest) ← twoDigits? text
  guard (second ≤ 60)
  match rest with
  | '.' :: rest =>
    guard ((rest.head?.map Char.isDigit).getD false)
    return rest.dropWhile Char.isDigit
  | rest => return rest

/-- What follows an hour and a minute, the second of which may be absent. -/
def afterTime? (text : List Char) : Option (List Char) := do
  let (hour, rest) ← twoDigits? text
  let ':' :: rest := rest | none
  let (minute, rest) ← twoDigits? rest
  guard (hour ≤ 23 ∧ minute ≤ 59)
  match rest with
  | ':' :: rest => afterSecond? rest
  | rest => return rest

/-- The text is nothing or an offset from universal time. -/
def isOffset : List Char → Bool
  | [] | ['Z'] | ['z'] => true
  | sign :: rest => (sign == '+' || sign == '-') && afterOffset? rest == some []
where
  afterOffset? (text : List Char) : Option (List Char) := do
    let (hour, rest) ← twoDigits? text
    let ':' :: rest := rest | none
    let (minute, rest) ← twoDigits? rest
    guard (hour ≤ 23 ∧ minute ≤ 59)
    return rest

def isDateTime (text : List Char) : Bool :=
  match afterDate? text with
  | some [] => true
  | some (mark :: rest) =>
    (mark == 'T' || mark == 't' || mark == ' ') && ((afterTime? rest).map isOffset).getD false
  | none => afterTime? text == some []

def scalar? (text : List Char) : Option Value :=
  if text = ['t', 'r', 'u', 'e'] then some (.boolean true)
  else if text = ['f', 'a', 'l', 's', 'e'] then some (.boolean false)
  else if isDateTime text then some (.dateTime text)
  else ((integer? text).map .integer).or ((float? text).map .float)

end PartProgram.Toml
