import PartProgram.CommandLine
import PartProgram.FileTree
import PartProgram.Report.Document
import PartProgram.Report.Text
import PartProgram.SettingsFile

namespace PartProgram

structure Job where
  file : String
  settings : Settings
  format : ReportFormat
  logLevel : String
deriving DecidableEq, Repr

inductive JobError where
  | arguments (cause : Interruption)
  | settings (cause : SettingsError)
deriving DecidableEq, Repr

namespace Job

/-- The settings of the named file, or else of the user's own, or else the usual ones. -/
def baseSettings {m : Type → Type} [Monad m] (files : FileSystem m) (named : Option String) :
    m (Except SettingsError Settings) := do
  match named with
  | some path => return Settings.ofFile path (← files.read path)
  | none =>
    match ← files.userSettings with
    | some (path, content) => return Settings.ofFile path content
    | none => return .ok {}

def override (a : Arguments) (s : Settings) : Settings where
  strict := a.strict || s.strict
  errorLimit := a.errorLimit.getD s.errorLimit
  statistics := s.statistics && !a.noStatistics
  toolpath := s.toolpath && !a.noToolpath

def ofArguments {m : Type → Type} [Monad m] (files : FileSystem m) (arguments : List String) :
    m (Except JobError Job) := do
  match CommandLine.read arguments with
  | .error cause => return .error (.arguments cause)
  | .ok (file, a) =>
    match ← baseSettings files a.config with
    | .error cause => return .error (.settings cause)
    | .ok settings =>
      return .ok {
        file
        settings := override a settings
        format := a.format.getD .text
        logLevel := a.logLevel.getD "info" }

end Job

/-- What a run of the tool shows: its exit code, its output and why it failed. -/
structure Outcome where
  exitCode : Nat
  output : String := ""
  error : Option String := none
deriving DecidableEq, Repr

namespace Tool

def version : String :=
  "gcode-toolpath 0.1.0\n"

def help : String :=
  "Parse a G-code program and report its toolpath and statistics

Usage: gcode-toolpath [OPTIONS] <FILE>

Arguments:
  <FILE>  G-code file to parse

Options:
      --strict                 Reject unknown codes and stop at the first error
      --max-errors <N>         Stop after this many errors
      --no-statistics          Skip statistics collection
      --no-toolpath            Skip toolpath generation
      --config <PATH>          Parser configuration file (TOML)
      --format <FORMAT>        Report format [default: text] [possible values: text, json]
      --log-level <LOG_LEVEL>  Log level (trace, debug, info, warn, error) [default: info]
  -h, --help                   Print help
  -V, --version                Print version
"

def refusal : Interruption → String
  | .unknownArgument => "error: unexpected argument"
  | .invalidValue => "error: invalid value"
  | .malformedValue => "error: malformed value"
  | .repeatedArgument => "error: argument used more than once"
  | .missingArgument => "error: the file to parse is missing"
  | .unexpectedValue => "error: unexpected value"
  | .help | .version => ""

def report (format : ReportFormat) (c : Controller) (success : Bool) : String :=
  match format with
  | .text => Report.text c success
  | .json => (Report.document c success).pretty ++ "\n"

/-- Runs the program of a job, whose content is absent if it cannot be read. -/
def carryOut (job : Job) (content : Option (List UInt8)) : Outcome :=
  let (c, success) := Controller.runFile { settings := job.settings } job.file content
  let output := report job.format c success
  if success then { exitCode := 0, output }
  else { exitCode := 1, output, error := some s!"Error: {job.file} did not parse cleanly" }

def run {m : Type → Type} [Monad m] (files : FileSystem m) (arguments : List String) :
    m Outcome := do
  match ← Job.ofArguments files arguments with
  | .error (.arguments .help) => return { exitCode := 0, output := help }
  | .error (.arguments .version) => return { exitCode := 0, output := version }
  | .error (.arguments cause) => return { exitCode := 2, error := some (refusal cause) }
  | .error (.settings cause) => return { exitCode := 1, error := some ("Error: " ++ cause.message) }
  | .ok job => return carryOut job (← files.read job.file)

end Tool

end PartProgram
