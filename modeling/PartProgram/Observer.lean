import PartProgram.Segment

namespace PartProgram

/-- What an observer is told of a program while it runs. -/
inductive Event where
  /-- A line is about to be read, out of so many; 0 if that is not known. -/
  | progress (line total : Nat)
  | fault (entry : Entry)
  | segment (segment : Segment)
deriving DecidableEq, Repr

inductive Observer where
  | recorder (events : Array Event)
  /-- Hands on the segments as long as the other end is open. -/
  | channel (isOpen : Bool) (waiting : Array Segment)
deriving DecidableEq, Repr

namespace Observer

def newRecorder : Observer :=
  recorder #[]

def newChannel : Observer :=
  channel true #[]

def tell : Observer → Event → Observer
  | recorder events, e => recorder (events.push e)
  | channel true waiting, .segment s => channel true (waiting.push s)
  | o, _ => o

end Observer

end PartProgram
