import ModuleAudit.CommandLine.Session
import Std.Time.Format

/-!
# The command

Reads the files a run asks for, shows its log on the error stream and saves its
report. All decisions are made by `Session.run`.
-/

namespace ModuleAudit

namespace Terminal

def causeOf : IO.Error → FileError
  | .noFileOrDirectory .. => .missing
  | .inappropriateType _ code _ => if code = 20 then .notDirectory else .isDirectory
  | _ => .denied

/-- The path by which the file system is asked, if there is one. -/
def systemPath? (path : Text) : Option String := do
  let name ← FileName.ofText? path
  String.fromUTF8? ⟨name.toArray⟩

def look (path : Text) : IO FileLook := do
  match systemPath? path with
  | none => return .missing
  | some name =>
    try
      return .file (← IO.FS.readBinFile name)
    catch e =>
      match causeOf e with
      | .missing => return .missing
      | .notDirectory => return .missing
      | cause => return .refused cause

/-- Save a report, or say why that fails. -/
def save (path : Text) (report : String) : IO (Except Failure Unit) := do
  match systemPath? path with
  | none => return .error (.file .missing path)
  | some name =>
    try
      IO.FS.writeFile name report
      return .ok ()
    catch e => return .error (.file (causeOf e) path)

/-- The present time in universal time. A whole second has no fraction. -/
def timeText : IO String := do
  let now ← Std.Time.Timestamp.now
  let time := Std.Time.DateTime.ofTimestamp now Std.Time.TimeZone.ZoneRules.UTC
  return (time.format "uuuu-MM-dd'T'HH:mm:ss.SSSSSSxxx").replace ".000000" ""

def surroundings : IO Surroundings := do
  let setting (name default : String) : IO Text := return (← IO.getEnv name).getD default
  return {
    cwd := (← IO.currentDir).toString
    input := ← setting "MODULE_ANALYZER_INPUT" "module-map.json"
    output := ← setting "MODULE_ANALYZER_OUTPUT" "dependency-analysis.json"
    level := ← setting "MODULE_ANALYZER_LOG_LEVEL" "INFO"
    time := ← timeText }

def wording : Wording where
  notText := "the file is not UTF-8 text"
  notJson := "the file is not a JSON value"

def usage : String :=
  "usage: module-analyzer [-h] [--root ROOT] [--config CONFIG] [--package-json PACKAGE_JSON] " ++
    "[--verbose] [input] [output]"

def giveUp (s : Surroundings) (failure : Failure) : IO UInt32 := do
  IO.eprintln (Text.printed (failure.message s.limits wording))
  return 1

def run (a : Arguments) : IO UInt32 := do
  let s ← surroundings
  let level := Session.levelOf s a
  let outcome ← Session.run look wording s a
  IO.eprint (Text.printed (Session.shown level outcome.journal))
  match outcome.ending with
  | .exit code => return code.toUInt32
  | .fail failure => giveUp s failure
  | .save path report journal =>
    match ← save path report.render with
    | .error failure => giveUp s failure
    | .ok _ =>
      IO.eprint (Text.printed (Session.shown level journal))
      return 0

end Terminal

end ModuleAudit

/-- Analyse a fact map from the command line. -/
def main (arguments : List String) : IO UInt32 := do
  match ModuleAudit.Arguments.parse (arguments.map ModuleAudit.Text.ofString) with
  | .ok a => ModuleAudit.Terminal.run a
  | .error .help =>
    IO.println ModuleAudit.Terminal.usage
    return 0
  | .error refusal =>
    IO.eprintln ModuleAudit.Terminal.usage
    IO.eprintln (ModuleAudit.Text.printed (ModuleAudit.Session.refusalLine refusal))
    return 2
