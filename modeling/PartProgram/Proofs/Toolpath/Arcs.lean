import PartProgram.Proofs.Controller.LineLog
import PartProgram.Proofs.Number.Hypotenuse

namespace PartProgram

namespace Fault

/-- How the message of a fault begins. -/
def initial : Fault → Char
  | missingValue _ => 'M'
  | badNumber _ => 'P'
  | unknownG _ | unknownM _ => 'U'
  | arcWithoutCenter | arcOverdetermined => 'A'
  | dwellWithoutTime => 'D'
  | unreadableFile _ => 'C'
  | failedRead _ => 'R'

theorem head?_append {front : String} (c : Char) (h : front.toList.head? = some c)
    (rest : String) : (front ++ rest).toList.head? = some c := by
  rw [String.toList_append, List.head?_append, h]
  rfl

end Fault

namespace ArcWords

end ArcWords

namespace ArcGeometry

variable {words : ArcWords} {start stop : Position}

end ArcGeometry

namespace Segment

def isArc (g : Segment) : Bool :=
  (Operation.move g.motion).isArc

end Segment

namespace Step

variable {s : Step} {g : Segment}

end Step

namespace Controller

end Controller

end PartProgram
