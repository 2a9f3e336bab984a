import PartProgram.Controller
import PartProgram.Report.Names
import PartProgram.Number.Decimal

namespace PartProgram.Report

def places (x : Float) : String :=
  Number.signed (Number.fixedPlaces 3) x

/-- Whole seconds, a half counted as one, from nothing up to what 64 bits hold. -/
def wholeSeconds (seconds : Float) : Nat :=
  if 0.0 < seconds then
    if seconds.isInf then 2 ^ (64 : Nat) - 1
    else min (2 ^ (64 : Nat) - 1) ((Number.Binary.ofFloat seconds).ratio.round .up)
  else 0

def twoDigits (n : Nat) : String :=
  if n < 10 then "0" ++ toString n else toString n

def duration (seconds : Float) : String :=
  let total := wholeSeconds seconds
  toString (total / 3600) ++ ":" ++ twoDigits (total / 60 % 60) ++ ":" ++ twoDigits (total % 60)

def boxLine (b : Box) : String :=
  "Bounds:        X " ++ range b.low.x b.high.x ++ "  Y " ++ range b.low.y b.high.y ++ "  Z " ++
    range b.low.z b.high.z
where
  range (low high : Float) : String :=
    places low ++ ".." ++ places high

def toolsLine (s : Summary) : String :=
  "Tools:         " ++ ", ".intercalate (s.tools.keys.map fun tool => s!"T{tool}") ++
    s!" ({s.toolChanges} changes)"

def entryLine (e : Entry) : String :=
  e.fault.severity.name ++ ": " ++ e.display

def heading (c : Controller) (success : Bool) : List String :=
  let s := c.summary
  ["Result:        " ++ (if success then "ok" else "failed"),
    s!"Lines:         {s.totalLines} total, {s.commandLines} commands, " ++
      s!"{s.commentLines} comments, {s.errorLines} errors",
    s!"Moves:         {s.rapidMoves} rapid, {s.linearMoves} linear, {s.arcMoves} arc",
    s!"Distance:      {places s.distance} total ({places s.rapidDistance} rapid, " ++
      s!"{places s.cuttingDistance} cutting)",
    "Est. time:     " ++ duration s.time,
    "Units:         " ++ c.machine.units.name]

def lines (c : Controller) (success : Bool) : List String :=
  heading c success ++
    (c.summary.box.map boxLine).toList ++
    (if c.summary.tools.isEmpty then [] else [toolsLine c.summary]) ++
    c.log.toList.map entryLine

/-- The report, a line feed after each line. -/
def text (c : Controller) (success : Bool) : String :=
  String.join ((lines c success).map (· ++ "\n"))

end PartProgram.Report
