import PartProgram.Axes
import PartProgram.Fault
import PartProgram.Operation

namespace PartProgram

/-- The words that place the center of an arc: its offset from the start, or the radius. -/
structure ArcWords where
  i : Option Float := none
  j : Option Float := none
  k : Option Float := none
  r : Option Float := none
deriving DecidableEq, Repr

namespace ArcWords

/-- An offset in the plane of the arc is given. -/
def hasOffset (a : ArcWords) : Bool :=
  a.i.isSome || a.j.isSome

def hasRadius (a : ArcWords) : Bool :=
  a.r.isSome

end ArcWords

/-- An operation with the words that mean something to it. -/
structure Instruction where
  operation : Operation
  axes : AxisWords := .none
  arc : ArcWords := {}
  feed : Option Float := none
  speed : Option Float := none
  dwell : Option Float := none
  retract : Option Float := none
  peck : Option Float := none
  tool : Option Int := none
  line : Nat := 1
  text : String := ""
  comment : String := ""
deriving DecidableEq, Repr

namespace Instruction

/-- The instruction of an operation with the given words. R is the radius of an arc and the
retract height of all else; letters without a meaning are left out. -/
def ofWords (operation : Operation) (words : Table Char Float) (takesAxes : Bool := true) :
    Instruction where
  operation
  axes :=
    if takesAxes then
      ⟨words.get? 'X', words.get? 'Y', words.get? 'Z', words.get? 'A', words.get? 'B',
        words.get? 'C'⟩
    else .none
  arc :=
    ⟨words.get? 'I', words.get? 'J', words.get? 'K',
      if operation.isArc then words.get? 'R' else none⟩
  feed := words.get? 'F'
  speed := words.get? 'S'
  dwell := words.get? 'P'
  retract := if operation.isArc then none else words.get? 'R'
  peck := words.get? 'Q'
  tool := (words.get? 'T').map Number.toCode

/-- What makes the instruction impossible to carry out: an arc needs an offset or a radius and
not both, a dwell needs a time. -/
def fault? (i : Instruction) : Option Fault :=
  if i.operation.isArc then
    match i.arc.hasOffset, i.arc.hasRadius with
    | false, false => some .arcWithoutCenter
    | true, true => some .arcOverdetermined
    | _, _ => none
  else if i.operation = .dwell then
    if i.dwell.any (0.0 ≤ ·) then none else some .dwellWithoutTime
  else none

end Instruction

end PartProgram
