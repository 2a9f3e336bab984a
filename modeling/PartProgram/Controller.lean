import PartProgram.Observer
import PartProgram.Settings
import PartProgram.Summary
import PartProgram.Text.Line
import PartProgram.Text.Utf8

namespace PartProgram

/-- Runs a part program line by line. -/
structure Controller where
  machine : Machine := {}
  toolpath : Array Segment := #[]
  summary : Summary := {}
  log : Array Entry := #[]
  settings : Settings := {}
  keepsToolpath : Bool := true
  observer : Option Observer := none

namespace Controller

def tell (c : Controller) (e : Event) : Controller :=
  { c with observer := c.observer.map (·.tell e) }

def report (c : Controller) (entry : Entry) : Controller :=
  let c := c.tell (.fault entry)
  { c with log := c.log.push entry }

def reportAll (c : Controller) (text : String) (line : Nat) (faults : List Fault) : Controller :=
  faults.foldl (fun c fault => c.report ⟨line, text, fault⟩) c

def reset (c : Controller) : Controller :=
  { c with machine := {}, toolpath := #[], summary := {}, log := #[] }

/-- No further line is read: the log is full, or it is strict and not empty. -/
def isHalted (c : Controller) : Bool :=
  c.settings.errorLimit ≤ c.log.size || (c.settings.strict && !c.log.isEmpty)

/-- Nothing was logged; or nothing on an error line, if faults are tolerated. -/
def succeeded (c : Controller) : Bool :=
  c.log.isEmpty || (!c.settings.strict && c.summary.errorLines == 0)

/-- What a line says to the machine as it stands. -/
def read (c : Controller) (text : String) (line : Nat) : Block :=
  .parse text line (.move c.machine.motion) c.settings.strict

/-- Reads a line and reports its faults, but carries nothing out. -/
def check (c : Controller) (text : String) (line : Nat) : Block × Controller :=
  let block := c.read text line
  (block, c.reportAll text line block.faults)

def deliver (c : Controller) (segment : Segment) : Controller :=
  let c := if c.keepsToolpath then { c with toolpath := c.toolpath.push segment } else c
  c.tell (.segment segment)

/-- Carries an instruction out. Its segment is returned if the toolpath is built. -/
def execute (c : Controller) (i : Instruction) : Controller × Option Segment :=
  let start := c.machine.position
  let stop := c.machine.target i.axes
  let c := { c with machine := c.machine.apply i }
  let segment := Segment.ofInstruction? i start stop c.machine
  let delivered := if c.settings.toolpath then segment else none
  let c := match delivered with
    | some s => c.deliver s
    | none => c
  let c :=
    if c.settings.statistics then { c with summary := c.summary.record i c.machine segment } else c
  let c := match i.fault? with
    | some fault => c.report ⟨i.line, i.text, fault⟩
    | none => c
  (c, delivered)

def executeAll (c : Controller) : List Instruction → Controller × List Segment
  | [] => (c, [])
  | i :: rest =>
    let (c, segment) := c.execute i
    let (c, segments) := c.executeAll rest
    (c, segment.toList ++ segments)

def runLine (c : Controller) (text : String) (line total : Nat) : Controller × List Segment :=
  let c := { c with machine := { c.machine with line } }
  let c := c.tell (.progress line total)
  let (block, c) := c.check text line
  let c := { c with summary := c.summary.countLine block }
  c.executeAll block.instructions

/-- Runs numbered lines until one halts the controller. -/
def runLines (c : Controller) (total : Nat) (lines : List (String × Nat)) : Controller :=
  lines.foldl (fun c line => if c.isHalted then c else (c.runLine line.1 line.2 total).1) c

/-- Runs a program from its first line in a fresh state. -/
def runText (c : Controller) (text : List Char) : Controller :=
  let lines := Text.lines text
  c.reset.runLines lines.length (lines.zipIdx 1)

/-- Runs the program in a file, whose content is absent if it cannot be read. -/
def runFile (c : Controller) (path : String) : Option (List UInt8) → Controller × Bool
  | some bytes =>
    let c := c.runText (Text.decodeLossy bytes)
    (c, c.succeeded)
  | none => (c.reset.report ⟨0, "", .unreadableFile path⟩, false)

end Controller

end PartProgram
