import PartProgram.Instruction
import PartProgram.Line.Comment

namespace PartProgram

/-- What one line of a program says. -/
structure Block where
  instructions : List Instruction
  faults : List Fault
  comment : String
  text : String
  line : Nat
deriving DecidableEq, Repr

namespace Block

def isErrorLine (b : Block) : Bool :=
  b.faults.any (·.marksLine)

/-- The message of the last fault that makes the line an error line. -/
def errorMessage (b : Block) : String :=
  match (b.faults.filter (·.marksLine)).getLast? with
  | some fault => fault.message
  | none => ""

/-- The operation of each code. One that is not known counts as an unknown operation, or not at
all when `strict`. -/
def operations (of? : Int → Option Operation) (strict : Bool) (codes : List Int) :
    List Operation :=
  codes.filterMap fun code =>
    match of? code with
    | some operation => some operation
    | none => if strict then none else some .unknown

def unknownCodes (of? : Int → Option Operation) (codes : List Int) : List Int :=
  codes.filter fun code => (of? code).isNone

/-- The operations of a line: those of its codes, or the motion in force if it has axis words and
no code. -/
def requested (words : Line.Words) (implied : Operation) (strict : Bool) : List Operation :=
  if words.gcodes.isEmpty && words.mcodes.isEmpty then
    if words.hasAxes then [implied] else []
  else
    operations Operation.ofG? strict words.gcodes ++ operations Operation.ofM? strict words.mcodes

/-- The words of a line go to all its operations; but if one of them takes axis words, only those
that do receive them. -/
def bind (words : Table Char Float) (operations : List Operation) : List Instruction :=
  let owned := operations.any (·.takesAxes)
  operations.map fun operation => .ofWords operation words (!owned || operation.takesAxes)

def faultsOf (words : Line.Words) : List Fault :=
  words.missing.map .missingValue ++
    (unknownCodes Operation.ofG? words.gcodes).map .unknownG ++
    (unknownCodes Operation.ofM? words.mcodes).map .unknownM

/-- Reads a line. `implied` is the motion in force. After a malformed number nothing of the line
is carried out. -/
def parse (text : String) (line : Nat) (implied : Operation) (strict : Bool) : Block :=
  let comment := String.ofList (Line.comment text.toList)
  match Line.Words.read (Line.bare text.toList) with
  | .error bad =>
    { instructions := []
      faults := bad.missing.map .missingValue ++ [.badNumber bad]
      comment, text, line }
  | .ok words =>
    { instructions := (bind words.parameters (requested words implied strict)).map
        ({ · with line, text, comment })
      faults := faultsOf words
      comment, text, line }

end Block

end PartProgram
