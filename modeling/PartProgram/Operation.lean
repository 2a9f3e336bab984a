namespace PartProgram

/-- The group of G0 to G3. -/
inductive Motion where
  | rapid
  | linear
  | clockwise
  | counterclockwise
deriving DecidableEq, Repr

/-- The group of G81 to G85. -/
inductive CannedCycle where
  | drill
  | dwell
  | peck
  | tap
  | bore
deriving DecidableEq, Repr

/-- The group of G17 to G19. -/
inductive Plane where
  | xy
  | xz
  | yz
deriving DecidableEq, Repr

/-- The group of G20 and G21. -/
inductive Units where
  | millimeters
  | inches
deriving DecidableEq, Repr

/-- The group of G54 to G59. -/
inductive WorkSystem where
  | g54
  | g55
  | g56
  | g57
  | g58
  | g59
deriving DecidableEq, Repr

/-- The group of G90 and G91. -/
inductive DistanceMode where
  | absolute
  | incremental
deriving DecidableEq, Repr

/-- The group of M3 to M5. -/
inductive Spindle where
  | off
  | clockwise
  | counterclockwise
deriving DecidableEq, Repr

/-- What a code can ask for. -/
inductive Operation where
  | move (motion : Motion)
  | cycle (kind : CannedCycle)
  | cancelCycle
  | dwell
  | plane (plane : Plane)
  | units (units : Units)
  | workSystem (system : WorkSystem)
  | distanceMode (mode : DistanceMode)
  | returnHome
  | returnSecond
  /-- G92: the current position gets new coordinates. -/
  | offset
  /-- G93, G94 and G95, which no code reads as. -/
  | feedMode
  | spindle (state : Spindle)
  | toolChange
  | mist
  | flood
  | coolantOff
  | programEnd
  | programStop
  | optionalStop
  | unknown
deriving DecidableEq, Repr

namespace Operation

def ofG? (code : Int) : Option Operation :=
  match code with
  | 0 => some (move .rapid)
  | 1 => some (move .linear)
  | 2 => some (move .clockwise)
  | 3 => some (move .counterclockwise)
  | 4 => some dwell
  | 17 => some (plane .xy)
  | 18 => some (plane .xz)
  | 19 => some (plane .yz)
  | 20 => some (units .inches)
  | 21 => some (units .millimeters)
  | 28 => some returnHome
  | 30 => some returnSecond
  | 54 => some (workSystem .g54)
  | 55 => some (workSystem .g55)
  | 56 => some (workSystem .g56)
  | 57 => some (workSystem .g57)
  | 58 => some (workSystem .g58)
  | 59 => some (workSystem .g59)
  | 80 => some cancelCycle
  | 81 => some (cycle .drill)
  | 82 => some (cycle .dwell)
  | 83 => some (cycle .peck)
  | 84 => some (cycle .tap)
  | 85 => some (cycle .bore)
  | 90 => some (distanceMode .absolute)
  | 91 => some (distanceMode .incremental)
  | 92 => some offset
  | _ => none

def ofM? (code : Int) : Option Operation :=
  match code with
  | 0 => some programStop
  | 1 => some optionalStop
  | 2 => some programEnd
  | 3 => some (spindle .clockwise)
  | 4 => some (spindle .counterclockwise)
  | 5 => some (spindle .off)
  | 6 => some toolChange
  | 7 => some mist
  | 8 => some flood
  | 9 => some coolantOff
  | 30 => some programEnd
  | _ => none

def all : List Operation :=
  [move .rapid, move .linear, move .clockwise, move .counterclockwise, dwell, plane .xy, plane .xz,
    plane .yz, units .inches, units .millimeters, returnHome, returnSecond, offset,
    distanceMode .absolute, distanceMode .incremental, feedMode, spindle .clockwise,
    spindle .counterclockwise, spindle .off, toolChange, mist, flood, coolantOff, programEnd,
    programStop, optionalStop, workSystem .g54, workSystem .g55, workSystem .g56, workSystem .g57,
    workSystem .g58, workSystem .g59, cycle .drill, cycle .dwell, cycle .peck, cycle .tap,
    cycle .bore, cancelCycle, unknown]

def tag : Operation → String
  | move .rapid => "RAPID_MOVE"
  | move .linear => "LINEAR_MOVE"
  | move .clockwise => "CW_ARC"
  | move .counterclockwise => "CCW_ARC"
  | cycle .drill => "CANNED_CYCLE_DRILL"
  | cycle .dwell => "CANNED_CYCLE_DWELL"
  | cycle .peck => "CANNED_CYCLE_PECK"
  | cycle .tap => "CANNED_CYCLE_TAP"
  | cycle .bore => "CANNED_CYCLE_BORE"
  | cancelCycle => "CANCEL_CYCLE"
  | dwell => "DWELL"
  | plane .xy => "PLANE_XY"
  | plane .xz => "PLANE_XZ"
  | plane .yz => "PLANE_YZ"
  | units .millimeters => "MILLIMETERS"
  | units .inches => "INCHES"
  | workSystem .g54 => "WORK_COORD1"
  | workSystem .g55 => "WORK_COORD2"
  | workSystem .g56 => "WORK_COORD3"
  | workSystem .g57 => "WORK_COORD4"
  | workSystem .g58 => "WORK_COORD5"
  | workSystem .g59 => "WORK_COORD6"
  | distanceMode .absolute => "ABSOLUTE_MODE"
  | distanceMode .incremental => "INCREMENTAL_MODE"
  | returnHome => "RETURN_HOME"
  | returnSecond => "RETURN_PREDEFINED"
  | offset => "COORDINATE_OFFSET"
  | feedMode => "FEED_RATE_MODE"
  | spindle .clockwise => "SPINDLE_CW"
  | spindle .counterclockwise => "SPINDLE_CCW"
  | spindle .off => "SPINDLE_STOP"
  | toolChange => "TOOL_CHANGE"
  | mist => "COOLANT_MIST"
  | flood => "COOLANT_FLOOD"
  | coolantOff => "COOLANT_OFF"
  | programEnd => "PROGRAM_END"
  | programStop => "PROGRAM_STOP"
  | optionalStop => "OPTIONAL_STOP"
  | unknown => "UNKNOWN"

def ofTag? (name : String) : Option Operation :=
  all.find? (·.tag == name)

/-- The codes and what they ask for, to be read by people. -/
def label : Operation → String
  | move .rapid => "G0 (Rapid Move)"
  | move .linear => "G1 (Linear Move)"
  | move .clockwise => "G2 (Clockwise Arc)"
  | move .counterclockwise => "G3 (Counter-clockwise Arc)"
  | cycle .drill => "G81 (Drill Cycle)"
  | cycle .dwell => "G82 (Drill Cycle with Dwell)"
  | cycle .peck => "G83 (Peck Drill Cycle)"
  | cycle .tap => "G84 (Tapping Cycle)"
  | cycle .bore => "G85 (Boring Cycle)"
  | cancelCycle => "G80 (Cancel Canned Cycle)"
  | dwell => "G4 (Dwell)"
  | plane .xy => "G17 (XY Plane)"
  | plane .xz => "G18 (XZ Plane)"
  | plane .yz => "G19 (YZ Plane)"
  | units .millimeters => "G21 (Millimeters)"
  | units .inches => "G20 (Inches)"
  | workSystem .g54 => "G54 (Work Coordinates 1)"
  | workSystem .g55 => "G55 (Work Coordinates 2)"
  | workSystem .g56 => "G56 (Work Coordinates 3)"
  | workSystem .g57 => "G57 (Work Coordinates 4)"
  | workSystem .g58 => "G58 (Work Coordinates 5)"
  | workSystem .g59 => "G59 (Work Coordinates 6)"
  | distanceMode .absolute => "G90 (Absolute Mode)"
  | distanceMode .incremental => "G91 (Incremental Mode)"
  | returnHome => "G28 (Return Home)"
  | returnSecond => "G30 (Return Predefined)"
  | offset => "G92 (Coordinate Offset)"
  | feedMode => "G93/G94/G95 (Feed Rate Mode)"
  | spindle .clockwise => "M3 (Spindle CW)"
  | spindle .counterclockwise => "M4 (Spindle CCW)"
  | spindle .off => "M5 (Spindle Stop)"
  | toolChange => "M6 (Tool Change)"
  | mist => "M7 (Coolant Mist)"
  | flood => "M8 (Coolant Flood)"
  | coolantOff => "M9 (Coolant Off)"
  | programEnd => "M2/M30 (Program End)"
  | programStop => "M0 (Program Stop)"
  | optionalStop => "M1 (Optional Stop)"
  | unknown => "Unknown"

/-- Its choice within a group stays in force on later lines. -/
def isModal : Operation → Bool
  | move _ | plane _ | units _ | distanceMode _ | workSystem _ => true
  | _ => false

def isMotion : Operation → Bool
  | move _ | cycle _ => true
  | _ => false

def isArc : Operation → Bool
  | move .clockwise | move .counterclockwise => true
  | _ => false

/-- The axis words of a line are its arguments. -/
def takesAxes : Operation → Bool
  | returnHome | returnSecond | offset => true
  | o => o.isMotion

end Operation

end PartProgram
