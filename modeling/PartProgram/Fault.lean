import PartProgram.Line.Words

namespace PartProgram

inductive Severity where
  | warning
  /-- A line is malformed, or an instruction on it; the program goes on. -/
  | parseError
  /-- Nothing more can be read. -/
  | fatal
deriving DecidableEq, Repr

/-- What can be wrong with a part program. -/
inductive Fault where
  | missingValue (letter : Char)
  | badNumber (number : Line.BadNumber)
  | unknownG (code : Int)
  | unknownM (code : Int)
  | arcWithoutCenter
  | arcOverdetermined
  | dwellWithoutTime
  | unreadableFile (path : String)
  | failedRead (reason : String)
deriving DecidableEq, Repr

namespace Fault

def message : Fault → String
  | missingValue letter => s!"Missing value for {letter}"
  | badNumber number => "Parse error: " ++ number.message
  | unknownG code => s!"Unknown G-code: G{code}"
  | unknownM code => s!"Unknown M-code: M{code}"
  | arcWithoutCenter => "Arc command missing I/J or R parameter"
  | arcOverdetermined => "Arc command cannot have both R and I/J parameters"
  | dwellWithoutTime => "Dwell command missing P parameter"
  | unreadableFile path => "Cannot open file: " ++ path
  | failedRead reason => "Read error: " ++ reason

def marksLine : Fault → Bool
  | missingValue _ | badNumber _ => true
  | _ => false

def severity : Fault → Severity
  | unreadableFile _ | failedRead _ => .fatal
  | _ => .parseError

end Fault

/-- A fault in the log: the number and the text of its line. -/
structure Entry where
  line : Nat
  text : String
  fault : Fault
deriving DecidableEq, Repr

def Entry.display (e : Entry) : String :=
  s!"line {e.line}: {e.fault.message}"

end PartProgram
