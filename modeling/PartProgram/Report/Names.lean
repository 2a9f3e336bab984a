import PartProgram.Machine

namespace PartProgram

def Units.name : Units → String
  | millimeters => "Millimeters"
  | inches => "Inches"

def WorkSystem.name : WorkSystem → String
  | g54 => "G54"
  | g55 => "G55"
  | g56 => "G56"
  | g57 => "G57"
  | g58 => "G58"
  | g59 => "G59"

def Plane.name : Plane → String
  | xy => "Xy"
  | xz => "Xz"
  | yz => "Yz"

def DistanceMode.name : DistanceMode → String
  | absolute => "Absolute"
  | incremental => "Incremental"

def FeedMode.name : FeedMode → String
  | unitsPerMinute => "UnitsPerMinute"
  | inverseTime => "InverseTime"
  | unitsPerRevolution => "UnitsPerRev"

def Spindle.name : Spindle → String
  | off => "Off"
  | clockwise => "Cw"
  | counterclockwise => "Ccw"

namespace Severity

def name : Severity → String
  | warning => "Warning"
  | parseError => "ParseError"
  | fatal => "Fatal"

def tag : Severity → String
  | warning => "WARNING"
  | parseError => "PARSE_ERROR"
  | fatal => "FATAL"

end Severity

end PartProgram
