import PartProgram.Block
import PartProgram.Number.Order
import PartProgram.Segment

namespace PartProgram

/-- The corners of a box. Its rotary axes are those of the first position. -/
structure Box where
  low : Position
  high : Position
deriving DecidableEq, Repr

namespace Box

def ofPosition (p : Position) : Box :=
  ⟨p, p⟩

/-- The least box with the linear axes of a further position. -/
def extend (b : Box) (p : Position) : Box where
  low := { b.low with
    x := Number.least b.low.x p.x
    y := Number.least b.low.y p.y
    z := Number.least b.low.z p.z }
  high := { b.high with
    x := Number.greatest b.high.x p.x
    y := Number.greatest b.high.y p.y
    z := Number.greatest b.high.z p.z }

end Box

structure Summary where
  totalLines : Nat := 0
  commandLines : Nat := 0
  commentLines : Nat := 0
  errorLines : Nat := 0
  rapidMoves : Nat := 0
  linearMoves : Nat := 0
  arcMoves : Nat := 0
  toolChanges : Nat := 0
  distance : Float := 0.0
  rapidDistance : Float := 0.0
  cuttingDistance : Float := 0.0
  /-- In seconds. -/
  time : Float := 0.0
  /-- Absent until a position is recorded. -/
  box : Option Box := none
  tools : Table Int Unit := .empty
  /-- The distance cut at each feed rate. -/
  feeds : Table Float Float := .empty
  /-- The seconds cut at each spindle speed. -/
  speeds : Table Float Float := .empty

/-- A rate as a key: −0 is the same rate as 0. -/
def rateKey (rate : Float) : Float :=
  rate + 0.0

namespace Summary

def spend (t : Table Float Float) (rate amount : Float) : Table Float Float :=
  t.alter (rateKey rate) fun spent => spent.getD 0.0 + amount

/-- A line counts under one heading at most. -/
def countLine (s : Summary) (b : Block) : Summary :=
  let s := { s with totalLines := s.totalLines + 1 }
  if b.isErrorLine then { s with errorLines := s.errorLines + 1 }
  else if !b.instructions.isEmpty then { s with commandLines := s.commandLines + 1 }
  else if !b.comment.isEmpty then { s with commentLines := s.commentLines + 1 }
  else s

def countOperation (s : Summary) (i : Instruction) : Summary :=
  match i.operation with
  | .move .rapid => { s with rapidMoves := s.rapidMoves + 1 }
  | .move .linear => { s with linearMoves := s.linearMoves + 1 }
  | .move .clockwise | .move .counterclockwise => { s with arcMoves := s.arcMoves + 1 }
  | .toolChange =>
    { s with
      toolChanges := s.toolChanges + 1
      tools := match toolNumber i.tool with
        | some tool => s.tools.insert tool ()
        | none => s.tools }
  | _ => s

def visit (s : Summary) (p : Position) : Summary :=
  { s with box := some (match s.box with
    | some b => b.extend p
    | none => .ofPosition p) }

/-- A feed rate that is given is listed even if nothing is cut at it. -/
def listFeed (s : Summary) (word : Option Float) : Summary :=
  match nonNegative word with
  | some feed => { s with feeds := s.feeds.alter (rateKey feed) (·.getD 0.0) }
  | none => s

def addSegment (s : Summary) (g : Segment) : Summary :=
  let s := { s with distance := s.distance + g.length, time := s.time + g.time }
  if g.motion = .rapid then { s with rapidDistance := s.rapidDistance + g.length }
  else { s with
    cuttingDistance := s.cuttingDistance + g.length
    feeds := spend s.feeds g.feed g.length
    speeds := if g.spindleOn then spend s.speeds g.speed g.time else s.speeds }

/-- Accounts for an instruction that the machine has taken, and for its segment. -/
def record (s : Summary) (i : Instruction) (m : Machine) (segment : Option Segment) : Summary :=
  let s := s.countOperation i
  let s := if i.axes.anyLinear then s.visit m.position else s
  let s := s.listFeed i.feed
  match segment with
  | some g => s.addSegment g
  | none => s

end Summary

end PartProgram
