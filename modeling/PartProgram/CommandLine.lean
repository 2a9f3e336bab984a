import PartProgram.Number.Literal
import PartProgram.Number.Power

namespace PartProgram

inductive ReportFormat where
  | text
  | json
deriving DecidableEq, Repr

/-- What ends the reading of a command line before the end. -/
inductive Interruption where
  | help
  | version
  | unknownArgument
  /-- A value is absent, empty, or none of those that are possible. -/
  | invalidValue
  /-- A value is not the number it should be. -/
  | malformedValue
  | repeatedArgument
  | missingArgument
  /-- A switch is given a value. -/
  | unexpectedValue
deriving DecidableEq, Repr

/-- The arguments that may be absent are those that have been given. -/
structure Arguments where
  file : Option String := none
  strict : Bool := false
  errorLimit : Option Nat := none
  noStatistics : Bool := false
  noToolpath : Bool := false
  config : Option String := none
  format : Option ReportFormat := none
  logLevel : Option String := none
deriving DecidableEq, Repr

inductive Slot where
  | file
  | errorLimit
  | config
  | format
  | logLevel
deriving DecidableEq, Repr

inductive LongOption where
  | valued (slot : Slot)
  | strict
  | noStatistics
  | noToolpath
  | help
  | version
deriving DecidableEq, Repr

def LongOption.ofName? (name : String) : Option LongOption :=
  match name with
  | "max-errors" => some (valued .errorLimit)
  | "config" => some (valued .config)
  | "format" => some (valued .format)
  | "log-level" => some (valued .logLevel)
  | "strict" => some strict
  | "no-statistics" => some noStatistics
  | "no-toolpath" => some noToolpath
  | "help" => some help
  | "version" => some version
  | _ => none

/-- The argument whose value is still to come or to be examined. -/
inductive Waiting where
  | nothing
  | due (slot : Slot)
  | held (slot : Slot) (value : String)
deriving DecidableEq, Repr

/-- The reading of a command line. Options may stand anywhere before two dashes alone. -/
structure CommandLine where
  arguments : Arguments := {}
  waiting : Waiting := .nothing
  named : Bool := false
  /-- Two dashes alone have come; what follows is no option. -/
  escaped : Bool := false
deriving DecidableEq, Repr

namespace Arguments

/-- Digits after an optional plus, for a count that 64 bits hold. -/
def count? (value : String) : Option Nat :=
  let digits := match value.toList with
    | '+' :: digits => digits
    | digits => digits
  if digits.isEmpty || !digits.all Char.isDigit then none
  else if Number.ofDigits digits < 2 ^ (64 : Nat) then some (Number.ofDigits digits)
  else none

def fill {α : Type} (old : Option α) (value : Except Interruption α) :
    Except Interruption (Option α) :=
  if old.isSome then .error .repeatedArgument else value.map some

def path (value : String) : Except Interruption String :=
  if value.isEmpty then .error .invalidValue else .ok value

def limit (value : String) : Except Interruption Nat :=
  match count? value with
  | some n => .ok n
  | none => .error .malformedValue

def formatNamed (value : String) : Except Interruption ReportFormat :=
  match value with
  | "text" => .ok .text
  | "json" => .ok .json
  | _ => .error .invalidValue

def set (a : Arguments) (value : String) : Slot → Except Interruption Arguments
  | .file => return { a with file := ← fill a.file (path value) }
  | .errorLimit => return { a with errorLimit := ← fill a.errorLimit (limit value) }
  | .config => return { a with config := ← fill a.config (path value) }
  | .format => return { a with format := ← fill a.format (formatNamed value) }
  | .logLevel => return { a with logLevel := ← fill a.logLevel (.ok value) }

/-- Turns a switch on, which must be off. -/
def turnOn (isOn : Bool) : Except Interruption Bool :=
  if isOn then .error .repeatedArgument else .ok true

end Arguments

namespace CommandLine

/-- Examines a value that has come. This waits for the next option or file name, or for the end, so
an argument that means nothing is refused first. -/
def settle (l : CommandLine) : Except Interruption CommandLine :=
  match l.waiting with
  | .nothing => .ok l
  | .due _ => .error .invalidValue
  | .held slot value =>
    return { l with arguments := ← l.arguments.set value slot, waiting := .nothing }

def takeOption (l : CommandLine) (option : LongOption) : Except Interruption CommandLine := do
  let l ← l.settle
  let a := l.arguments
  match option with
  | .valued slot => return { l with waiting := .due slot }
  | .strict => return { l with arguments := { a with strict := ← Arguments.turnOn a.strict } }
  | .noStatistics =>
    return { l with arguments := { a with noStatistics := ← Arguments.turnOn a.noStatistics } }
  | .noToolpath =>
    return { l with arguments := { a with noToolpath := ← Arguments.turnOn a.noToolpath } }
  | .help => throw .help
  | .version => throw .version

def takeLong (l : CommandLine) (text : List Char) : Except Interruption CommandLine :=
  let name := text.takeWhile (· != '=')
  match LongOption.ofName? (String.ofList name), text.dropWhile (· != '=') with
  | none, _ => throw .unknownArgument
  | some option, [] => l.takeOption option
  | some (.valued slot), _ :: value => do
    let l ← l.settle
    return { l with arguments := ← l.arguments.set (String.ofList value) slot }
  | some _, _ :: _ => throw .unexpectedValue

/-- Takes what follows one dash. Only the first letter counts, since each of them ends the
reading. -/
def takeShort (l : CommandLine) (letter : Char) : Except Interruption CommandLine :=
  if letter = 'h' then l.takeOption .help
  else if letter = 'V' then l.takeOption .version
  else throw .unknownArgument

/-- Takes a file name, of which there is only one. -/
def takeName (l : CommandLine) (name : String) : Except Interruption CommandLine := do
  if l.named then throw .unknownArgument
  let l ← l.settle
  return { l with waiting := .held .file name, named := true }

def take (l : CommandLine) (argument : String) : Except Interruption CommandLine :=
  if l.escaped then l.takeName argument
  else match argument.toList with
    | ['-', '-'] => .ok { l with escaped := true }
    | '-' :: '-' :: text => l.takeLong text
    | '-' :: letter :: _ => l.takeShort letter
    | _ =>
      match l.waiting with
      | .due slot => .ok { l with waiting := .held slot argument }
      | _ => l.takeName argument

/-- Reads the arguments; the file name comes apart, since it must be there. -/
def read (arguments : List String) : Except Interruption (String × Arguments) := do
  let l ← arguments.foldlM take ({} : CommandLine)
  let l ← l.settle
  match l.arguments.file with
  | some file => return (file, l.arguments)
  | none => throw .missingArgument

end CommandLine

end PartProgram
