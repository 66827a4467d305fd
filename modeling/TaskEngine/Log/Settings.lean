import TaskEngine.Config.Environment
import TaskEngine.Log.Filter

/-! Which events are printed and what each line shows. A filter text that is not set or not
valid counts as `info`; only one with a directive to be cut inside a character gives no
filter. -/

namespace TaskEngine

structure LogSettings where
  filterText : Option String := none
  withTarget : Bool := true
  withThreadNames : Bool := true
  deriving DecidableEq, Inhabited

namespace LogSettings

def ofEnvironment (env : Environment) : LogSettings :=
  { filterText :=
      match env.text? "RUST_LOG" with
      | some text => some text
      | none => env.text? "LOG_LEVEL" }

def filter (s : LogSettings) : Except Text.SplitCharacter LogFilter :=
  match s.filterText.map LogFilter.ofText with
  | none => .ok .info
  | some (.ok filter) => .ok filter
  | some (.error .malformed) => .ok .info
  | some (.error (.split character)) => .error character

end LogSettings

structure LogPrinter where
  filter : LogFilter
  withTarget : Bool
  withThreadNames : Bool
  deriving DecidableEq

def LogSettings.printer (s : LogSettings) : Except Text.SplitCharacter LogPrinter :=
  s.filter.map fun filter =>
    { filter, withTarget := s.withTarget, withThreadNames := s.withThreadNames }

inductive InstallError
  | alreadyInstalled
  deriving DecidableEq

def InstallError.message : InstallError → String
  | .alreadyInstalled => "a global default trace dispatcher has already been set"

/-- What a process logs by: nothing, until a printer is installed. -/
structure LogSink where
  printer : Option LogPrinter := none
  deriving DecidableEq

/-- A printer is installed once for the life of the process. -/
def LogSink.install (sink : LogSink) (printer : LogPrinter) : Except InstallError LogSink :=
  match sink.printer with
  | some _ => .error .alreadyInstalled
  | none => .ok ⟨some printer⟩

end TaskEngine
