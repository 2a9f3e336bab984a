import PartProgram.Controller

namespace PartProgram

/-- Bytes cut into lines, and the reason why reading fails after them, if it does. -/
structure Source where
  lines : List (List UInt8)
  failure : Option String := none
deriving DecidableEq, Repr

/-- A line ends with a line feed or with the input. A failure takes the line it strikes. -/
def Source.ofBytes (bytes : List UInt8) (failure : Option String := none) : Source :=
  let lines := Text.cutAfter (· == 10) bytes
  { lines := if failure.isSome then lines.filter fun line => line.getLast? == some 10 else lines
    failure }

/-- The segments of a program one by one. A line is read only when it is needed, and the controller
keeps no toolpath. -/
structure Stream where
  controller : Controller
  source : Source
  line : Nat := 0
  /-- Segments of the last line that have not been handed out. -/
  pending : List Segment := []
  ended : Bool := false

namespace Stream

def start (source : Source) (settings : Settings) : Stream where
  controller :=
    { settings := { settings with toolpath := true }
      keepsToolpath := false }
  source

/-- The text of a line: whatever follows its last character other than line feeds and carriage
returns is cut off. -/
def lineText (bytes : List UInt8) : String :=
  String.ofList (Text.trimEnd (Text.decodeLossy bytes))

def takeLine (s : Stream) (bytes : List UInt8) (rest : List (List UInt8)) : Stream :=
  let (controller, pending) := s.controller.runLine (lineText bytes) (s.line + 1) 0
  { s with controller, pending, source := { s.source with lines := rest }, line := s.line + 1 }

/-- Comes to the end of the input; a failure is logged at the line it struck. -/
def finish (s : Stream) : Stream :=
  match s.source.failure with
  | some reason =>
    { s with
      controller := s.controller.report ⟨s.line + 1, "", .failedRead reason⟩
      ended := true }
  | none => { s with ended := true }

/-- Reads lines until one has segments. -/
def advance (s : Stream) : List (List UInt8) → Stream
  | [] =>
    if s.ended || s.controller.isHalted then { s with ended := true } else s.finish
  | bytes :: rest =>
    if s.ended || s.controller.isHalted then { s with ended := true }
    else
      let s := s.takeLine bytes rest
      if s.pending.isEmpty then s.advance rest else s

def next (s : Stream) : Option Segment × Stream :=
  let s := if s.pending.isEmpty then s.advance s.source.lines else s
  match s.pending with
  | segment :: pending => (some segment, { s with pending })
  | [] => (none, s)

/-- Reads lines up to the end and collects their segments. -/
def collect (s : Stream) (segments : Array Segment) : List (List UInt8) → Array Segment × Stream
  | [] => (segments, s.advance [])
  | bytes :: rest =>
    if s.ended || s.controller.isHalted then (segments, { s with ended := true })
    else
      let s := s.takeLine bytes rest
      { s with pending := [] }.collect (segments ++ s.pending) rest

def rest (s : Stream) : Array Segment × Stream :=
  { s with pending := [] }.collect s.pending.toArray s.source.lines

end Stream

end PartProgram
