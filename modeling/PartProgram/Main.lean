import PartProgram.Tool

namespace PartProgram

def readFile? (path : String) : IO (Option (List UInt8)) := do
  try
    return some (← IO.FS.readBinFile path).toList
  catch _ =>
    return none

def settingsPlace? : IO (Option String) := do
  match ← IO.getEnv "XDG_CONFIG_HOME", ← IO.getEnv "HOME" with
  | some place, home =>
    if place.startsWith "/" then return some place else return home.map (· ++ "/.config")
  | none, home => return home.map (· ++ "/.config")

def isRegularFile (path : String) : IO Bool := do
  try
    return (← (← IO.FS.realPath path).metadata).type == .file
  catch _ =>
    return false

def systemFiles : FileSystem IO where
  read := readFile?
  userSettings := do
    let some place ← settingsPlace? | return none
    let path := place ++ "/gcode-toolpath/config.toml"
    if ← isRegularFile path then return some (path, ← readFile? path) else return none

end PartProgram

def main (arguments : List String) : IO UInt32 := do
  let outcome ← PartProgram.Tool.run PartProgram.systemFiles arguments
  IO.print outcome.output
  if let some error := outcome.error then IO.eprintln error
  return outcome.exitCode.toUInt32
