import ModuleAudit.Text.Basic

/-!
# Log lines

The stages of an analysis report what they did as lines of text, each with a
level and the stage it comes from. Lines are values: a stage returns them, and
the outer layer decides which are shown.
-/

namespace ModuleAudit

inductive LogLevel where
  | debug
  | info
  | warning
  | error
  | critical
deriving DecidableEq, Repr

namespace LogLevel

def name : LogLevel → Text
  | .debug => "DEBUG"
  | .info => "INFO"
  | .warning => "WARNING"
  | .error => "ERROR"
  | .critical => "CRITICAL"

def rank : LogLevel → Nat
  | .debug => 0
  | .info => 1
  | .warning => 2
  | .error => 3
  | .critical => 4

/-- The capital of a letter of a level name. Two small letters outside ASCII
have an ASCII capital. -/
def capital (c : Char) : Char :=
  if c = 'ı' then 'I' else if c = 'ſ' then 'S' else c.toUpper

/-- The level that a word names in any mixture of cases. Unknown words name the
level `info`. -/
def ofName (word : Text) : LogLevel :=
  let name := word.map (CodePoint.mapChar capital)
  if name = "DEBUG" || name = "NOTSET" then .debug
  else if name = "WARNING" || name = "WARN" then .warning
  else if name = "ERROR" then .error
  else if name = "CRITICAL" || name = "FATAL" then .critical
  else .info

end LogLevel

/-- The stages that log. -/
inductive LogSource where
  | commandLine
  | settings
  | engine
  | resolver
  | graph
  | cycles
  | usage
  | coupling
deriving DecidableEq, Repr

def LogSource.name : LogSource → Text
  | .commandLine => "main"
  | .settings => "module_analyzer.config"
  | .engine => "module_analyzer.engine"
  | .resolver => "module_analyzer.resolver"
  | .graph => "module_analyzer.graph_builder"
  | .cycles => "module_analyzer.cycle_detector"
  | .usage => "module_analyzer.export_usage"
  | .coupling => "module_analyzer.coupling"

structure LogLine where
  level : LogLevel
  source : LogSource
  message : Text
deriving DecidableEq, Repr

namespace LogLine

def debug (source : LogSource) (message : Text) : LogLine := ⟨.debug, source, message⟩

def info (source : LogSource) (message : Text) : LogLine := ⟨.info, source, message⟩

def warning (source : LogSource) (message : Text) : LogLine := ⟨.warning, source, message⟩

def error (source : LogSource) (message : Text) : LogLine := ⟨.error, source, message⟩

def text (line : LogLine) : Text :=
  line.level.name ++ " " ++ line.source.name ++ ": " ++ line.message

def isShownAt (line : LogLine) (level : LogLevel) : Bool := level.rank ≤ line.level.rank

end LogLine

end ModuleAudit
