import PartProgram.Settings
import PartProgram.Text.Utf8
import PartProgram.Toml.Document

namespace PartProgram

inductive SettingsError where
  | malformed
  | unreadableFile (path : String)
  | malformedFile (path : String)
deriving DecidableEq, Repr

def SettingsError.message : SettingsError → String
  | malformed => "Failed to parse parser configuration"
  | unreadableFile path => "Failed to read config file " ++ path
  | malformedFile path => "Failed to parse config file " ++ path

namespace Settings

def key? {α : Type} (document : Toml.Value) (key : String) (meaning : Toml.Value → Option α)
    (default : α) : Option α :=
  match document.get? key with
  | some v => meaning v
  | none => some default

def boolean? : Toml.Value → Option Bool
  | .boolean b => some b
  | _ => none

/-- A count that 64 bits hold. -/
def count? : Toml.Value → Option Nat
  | .integer n => if 0 ≤ n ∧ n < 2 ^ (64 : Nat) then some n.toNat else none
  | _ => none

/-- Keys that are absent take their defaults; keys of other names are ignored. -/
def ofToml? (text : List Char) : Option Settings := do
  let document ← Toml.read? text
  let usual : Settings := {}
  return {
    strict := ← key? document "strict_mode" boolean? usual.strict
    errorLimit := ← key? document "max_errors" count? usual.errorLimit
    statistics := ← key? document "collect_statistics" boolean? usual.statistics
    toolpath := ← key? document "generate_toolpath" boolean? usual.toolpath }

def ofText (text : List Char) : Except SettingsError Settings :=
  match ofToml? text with
  | some settings => .ok settings
  | none => .error .malformed

/-- The settings in a file, whose content is absent if it cannot be read. -/
def ofFile (path : String) (content : Option (List UInt8)) : Except SettingsError Settings :=
  match content.bind Text.decode? with
  | none => .error (.unreadableFile path)
  | some text =>
    match ofToml? text with
    | some settings => .ok settings
    | none => .error (.malformedFile path)

end Settings

end PartProgram
