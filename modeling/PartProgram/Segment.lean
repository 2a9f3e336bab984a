import PartProgram.Machine
import PartProgram.Number.Hypotenuse

namespace PartProgram

structure ArcGeometry where
  center : Position
  radius : Float
deriving DecidableEq, Repr

namespace ArcGeometry

/-- The geometry of an arc in the XY plane. A radius, whatever its sign, puts the center halfway
between the ends; an offset is measured from the start. Both together, or neither, tell nothing. -/
def ofWords? (words : ArcWords) (start stop : Position) : Option ArcGeometry :=
  match words.r, words.hasOffset with
  | some r, false =>
    some ⟨.linear ((start.x + stop.x) / 2.0) ((start.y + stop.y) / 2.0) start.z, r.abs⟩
  | none, true =>
    let center := Position.linear (start.x + words.i.getD 0.0) (start.y + words.j.getD 0.0)
      (start.z + words.k.getD 0.0)
    some ⟨center, Number.hypotenuse (start.x - center.x) (start.y - center.y)⟩
  | _, _ => none

def pi : Float :=
  3.141592653589793

/-- The direction of a point seen from the center. -/
def angle (g : ArcGeometry) (p : Position) : Float :=
  (p.y - g.center.y).atan2 (p.x - g.center.x)

/-- The radius times the angle between the ends, the shorter way around. -/
def length (g : ArcGeometry) (start stop : Position) : Float :=
  let span := (g.angle stop - g.angle start).abs
  g.radius * if pi < span then 2.0 * pi - span else span

end ArcGeometry

/-- A rapid, linear or arc move, with its length and the time it takes. -/
structure Segment where
  motion : Motion
  start : Position
  stop : Position
  /-- Absent where the words of an arc do not tell its center. -/
  arc : Option ArcGeometry
  feed : Float
  speed : Float
  spindleOn : Bool
  coolantOn : Bool
  tool : Int
  length : Float
  /-- In seconds. -/
  time : Float
  line : Nat
deriving DecidableEq, Repr

namespace Segment

/-- The rate of rapid moves, and of other moves before any feed rate, per minute. -/
def rapidRate : Float :=
  10000.0

def geometry? (i : Instruction) (start stop : Position) : Option ArcGeometry :=
  if i.operation.isArc then ArcGeometry.ofWords? i.arc start stop else none

/-- An arc without a center has no length. -/
def lengthOf (i : Instruction) (start stop : Position) : Float :=
  if i.operation.isArc then
    match geometry? i start stop with
    | some g => g.length start stop
    | none => 0.0
  else start.distance stop

def timeOf (motion : Motion) (feed length : Float) : Float :=
  if motion ≠ .rapid ∧ 0.0 < feed then length / feed * 60.0 else length / rapidRate * 60.0

/-- The segment of a move between two positions. Rates, spindle, coolant and tool are those of
the machine, which has taken the instruction already. Canned cycles have none. -/
def ofInstruction? (i : Instruction) (start stop : Position) (m : Machine) : Option Segment :=
  match i.operation with
  | .move motion =>
    let length := lengthOf i start stop
    some {
      motion, start, stop, length
      arc := geometry? i start stop
      feed := m.feed
      speed := m.speed
      spindleOn := m.spindleOn
      coolantOn := m.coolant.isOn
      tool := m.tool
      time := timeOf motion m.feed length
      line := i.line }
  | _ => none

end Segment

def Motion.segmentTag : Motion → String
  | rapid => "RAPID"
  | linear => "LINEAR"
  | clockwise => "ARC_CW"
  | counterclockwise => "ARC_CCW"

end PartProgram
