import PartProgram.Instruction

namespace PartProgram

/-- How a feed rate is meant. No instruction changes it. -/
inductive FeedMode where
  | unitsPerMinute
  | inverseTime
  | unitsPerRevolution
deriving DecidableEq, Repr

structure Coolant where
  mist : Bool := false
  flood : Bool := false
deriving DecidableEq, Repr

def Coolant.isOn (c : Coolant) : Bool :=
  c.mist || c.flood

/-- All that stays in force from one line to the next. -/
structure Machine where
  position : Position := .origin
  /-- What is added to work coordinates to give machine coordinates. -/
  offset : Position := .origin
  motion : Motion := .rapid
  units : Units := .millimeters
  system : WorkSystem := .g54
  plane : Plane := .xy
  distanceMode : DistanceMode := .absolute
  feedMode : FeedMode := .unitsPerMinute
  spindle : Spindle := .off
  coolant : Coolant := {}
  tool : Int := 0
  feed : Float := 0.0
  speed : Float := 0.0
  dwell : Float := 0.0
  retract : Float := 0.0
  peck : Float := 0.0
  /-- No end or stop of the program has been reached. -/
  running : Bool := true
  line : Nat := 0
deriving DecidableEq, Repr

/-- The word, unless it is negative or NaN. -/
def nonNegative (word : Option Float) : Option Float :=
  word.filter (0.0 ≤ ·)

/-- The tool a tool word names, unless it is negative. -/
def toolNumber (word : Option Int) : Option Int :=
  word.filter (0 ≤ ·)

namespace Machine

def spindleOn (m : Machine) : Bool :=
  m.spindle != .off

/-- Where the axis words lead from the current position. -/
def target (m : Machine) (words : AxisWords) : Position :=
  match m.distanceMode with
  | .absolute => words.absolute m.position
  | .incremental => words.incremental m.position

/-- The offset that makes the current position read as the given words. -/
def offsetFor (m : Machine) (words : AxisWords) : Position :=
  ⟨shift words.x m.position.x m.offset.x, shift words.y m.position.y m.offset.y,
    shift words.z m.position.z m.offset.z, shift words.a m.position.a m.offset.a,
    shift words.b m.position.b m.offset.b, shift words.c m.position.c m.offset.c⟩
where
  shift (word : Option Float) (current old : Float) : Float :=
    match word with
    | some value => current - value
    | none => old

def select (m : Machine) (i : Instruction) : Machine :=
  match i.operation with
  | .move motion => { m with motion }
  | .plane plane => { m with plane }
  | .units units => { m with units }
  | .workSystem system => { m with system }
  | .distanceMode distanceMode => { m with distanceMode }
  | .offset => { m with offset := m.offsetFor i.axes }
  | .spindle spindle => { m with spindle }
  | .toolChange => { m with tool := (toolNumber i.tool).getD m.tool }
  | .mist => { m with coolant := { m.coolant with mist := true } }
  | .flood => { m with coolant := { m.coolant with flood := true } }
  | .coolantOff => { m with coolant := {} }
  | .programEnd | .programStop => { m with running := false }
  | .cycle _ | .cancelCycle | .dwell | .returnHome | .returnSecond | .feedMode | .optionalStop
  | .unknown => m

/-- The words set the rates; of these only the retract height may be negative. -/
def adopt (m : Machine) (i : Instruction) : Machine :=
  { m with
    feed := (nonNegative i.feed).getD m.feed
    speed := (nonNegative i.speed).getD m.speed
    dwell := (nonNegative i.dwell).getD m.dwell
    retract := i.retract.getD m.retract
    peck := (nonNegative i.peck).getD m.peck }

/-- Axis words move the machine whatever the operation, and a motion always does. -/
def travel (m : Machine) (i : Instruction) : Machine :=
  if i.operation.isMotion || i.axes.any then { m with position := m.target i.axes } else m

def apply (m : Machine) (i : Instruction) : Machine :=
  ((m.select i).adopt i).travel i

def toWork (m : Machine) (p : Position) : Position :=
  p.sub m.offset

def toMachine (m : Machine) (p : Position) : Position :=
  p.add m.offset

end Machine

end PartProgram
