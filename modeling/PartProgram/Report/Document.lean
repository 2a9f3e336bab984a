import PartProgram.Controller
import PartProgram.Json
import PartProgram.Report.Names

namespace PartProgram.Report

open Json

def ofPosition (p : Position) : Json :=
  object [("x", number p.x), ("y", number p.y), ("z", number p.z), ("a", number p.a),
    ("b", number p.b), ("c", number p.c)]

def ofMachine (m : Machine) : Json :=
  object [
    ("current_position", ofPosition m.position),
    ("work_offset", ofPosition m.offset),
    ("motion_mode", string (Operation.move m.motion).tag),
    ("units", string m.units.name),
    ("coordinate_system", string m.system.name),
    ("plane", string m.plane.name),
    ("position_mode", string m.distanceMode.name),
    ("feed_rate_mode", string m.feedMode.name),
    ("spindle_state", string m.spindle.name),
    ("coolant", object [("mist", bool m.coolant.mist), ("flood", bool m.coolant.flood)]),
    ("current_tool", integer m.tool),
    ("feed_rate", number m.feed),
    ("spindle_speed", number m.speed),
    ("dwell_time", number m.dwell),
    ("retract_height", number m.retract),
    ("peck_increment", number m.peck),
    ("program_running", bool m.running),
    ("line_number", integer m.line)]

def ofRates (t : Table Float Float) : Json :=
  array (t.entries.map fun e => array [number e.1, number e.2])

/-- Bounds that are not valid stand at the origin. -/
def ofSummary (s : Summary) : Json :=
  let box := s.box.getD (.ofPosition .origin)
  object [
    ("total_lines", integer s.totalLines),
    ("command_lines", integer s.commandLines),
    ("comment_lines", integer s.commentLines),
    ("error_lines", integer s.errorLines),
    ("rapid_moves", integer s.rapidMoves),
    ("linear_moves", integer s.linearMoves),
    ("arc_moves", integer s.arcMoves),
    ("tool_changes", integer s.toolChanges),
    ("total_distance", number s.distance),
    ("rapid_distance", number s.rapidDistance),
    ("cutting_distance", number s.cuttingDistance),
    ("estimated_time", number s.time),
    ("min_bounds", ofPosition box.low),
    ("max_bounds", ofPosition box.high),
    ("bounds_valid", bool s.box.isSome),
    ("tools_used", array (s.tools.keys.map integer)),
    ("feed_rates", ofRates s.feeds),
    ("spindle_speeds", ofRates s.speeds)]

def ofEntry (e : Entry) : Json :=
  object [
    ("line_number", integer e.line),
    ("line", string e.text),
    ("message", string e.fault.message),
    ("severity", string e.fault.severity.tag)]

def ofGeometry : Option ArcGeometry → Json
  | some g => object [("center", ofPosition g.center), ("radius", number g.radius)]
  | none => null

def ofSegment (s : Segment) : Json :=
  object [
    ("segment_type", string s.motion.segmentTag),
    ("start", ofPosition s.start),
    ("end", ofPosition s.stop),
    ("arc", ofGeometry s.arc),
    ("feed_rate", number s.feed),
    ("spindle_speed", number s.speed),
    ("spindle_on", bool s.spindleOn),
    ("coolant_on", bool s.coolantOn),
    ("tool_number", integer s.tool),
    ("length", number s.length),
    ("estimated_time", number s.time),
    ("line_number", integer s.line)]

def document (c : Controller) (success : Bool) : Json :=
  object [
    ("success", bool success),
    ("state", ofMachine c.machine),
    ("statistics", ofSummary c.summary),
    ("errors", array (c.log.toList.map ofEntry)),
    ("toolpath", array (c.toolpath.toList.map ofSegment))]

end PartProgram.Report
