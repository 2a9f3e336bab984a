import PartProgram.Number.Binary
import PartProgram.Number.Literal
import PartProgram.Table
import PartProgram.Text.DecimalDigit

namespace PartProgram.Line

/-- The letters that begin a word: A to Z without O. -/
def isWordLetter (c : Char) : Bool :=
  'A' ≤ c && c ≤ 'Z' && c != 'O'

/-- An optional sign in front, the rest. -/
def splitSign : List Char → List Char × List Char
  | '+' :: rest => (['+'], rest)
  | '-' :: rest => (['-'], rest)
  | rest => ([], rest)

/-- The longest text in front that reads as a sign, digits, a point and digits, any of which may
be absent. -/
def numeral (text : List Char) : List Char :=
  let (sign, unsigned) := splitSign text
  let whole := unsigned.takeWhile Text.isDecimalDigit
  match unsigned.dropWhile Text.isDecimalDigit with
  | '.' :: rest => sign ++ whole ++ '.' :: rest.takeWhile Text.isDecimalDigit
  | _ => sign ++ whole

structure Word where
  letter : Char
  text : List Char
deriving DecidableEq, Repr

/-- The words in order. Number text holds no word letter, so it is passed over like a gap. -/
def scan : List Char → List Word
  | [] => []
  | c :: rest => if isWordLetter c then ⟨c, numeral rest⟩ :: scan rest else scan rest

namespace Word

def isEmpty (w : Word) : Bool :=
  w.text.isEmpty

def value? (w : Word) : Option Float :=
  Number.read? w.text

def isMalformed (w : Word) : Bool :=
  !w.isEmpty && w.value?.isNone

end Word

structure Words where
  gcodes : List Int
  mcodes : List Int
  /-- The other letters with their last values. -/
  parameters : Table Char Float
  /-- The letters without a value, in order. -/
  missing : List Char

structure BadNumber where
  letter : Char
  text : List Char
  /-- The letters without a value before it. -/
  missing : List Char
deriving DecidableEq, Repr

def BadNumber.message (b : BadNumber) : String :=
  "invalid number '" ++ String.ofList b.text ++ "' for " ++ String.singleton b.letter

def valuesOf (letter : Char) (ws : List Word) : List Float :=
  ws.filterMap fun w => if w.letter = letter then w.value? else none

def lettersWithoutValue (ws : List Word) : List Char :=
  (ws.filter (·.isEmpty)).map (·.letter)

/-- A letter of its own takes its last value as a parameter. -/
def parameter? (w : Word) : Option (Char × Float) :=
  if w.letter = 'G' ∨ w.letter = 'M' then none else w.value?.map (w.letter, ·)

namespace Words

def ofList (ws : List Word) : Except BadNumber Words :=
  match ws.find? (·.isMalformed) with
  | some w => .error ⟨w.letter, w.text, lettersWithoutValue (ws.takeWhile (!·.isMalformed))⟩
  | none => .ok {
      gcodes := (valuesOf 'G' ws).map Number.toCode
      mcodes := (valuesOf 'M' ws).map Number.toCode
      parameters := .ofList (ws.filterMap parameter?)
      missing := lettersWithoutValue ws }

def read (bare : List Char) : Except BadNumber Words :=
  ofList (scan bare)

def hasAxes (ws : Words) : Bool :=
  ['X', 'Y', 'Z', 'A', 'B', 'C'].any ws.parameters.contains

end Words

end PartProgram.Line
