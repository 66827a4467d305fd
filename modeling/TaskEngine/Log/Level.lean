import TaskEngine.Text.Decimal

/-! Five log levels from `error` to `trace`, and thresholds that let through a level and all
graver ones, or nothing. -/

namespace TaskEngine

inductive LogLevel
  | error | warn | info | debug | trace
  deriving DecidableEq

namespace LogLevel

def rank : LogLevel → Nat
  | .error => 1
  | .warn => 2
  | .info => 3
  | .debug => 4
  | .trace => 5

def name : LogLevel → String
  | .error => "ERROR"
  | .warn => "WARN"
  | .info => "INFO"
  | .debug => "DEBUG"
  | .trace => "TRACE"

def all : List LogLevel := [.error, .warn, .info, .debug, .trace]

end LogLevel

inductive LogThreshold
  | off
  | upTo (level : LogLevel)
  deriving DecidableEq

namespace LogThreshold

def allows : LogThreshold → LogLevel → Bool
  | .off, _ => false
  | .upTo most, level => level.rank ≤ most.rank

def name : LogThreshold → String
  | .off => "off"
  | .upTo .error => "error"
  | .upTo .warn => "warn"
  | .upTo .info => "info"
  | .upTo .debug => "debug"
  | .upTo .trace => "trace"

def all : List LogThreshold := .off :: LogLevel.all.map .upTo

def ofNumber? (n : Nat) : Option LogThreshold := all[n]?

/-- A threshold by name in any ASCII case, or by number from 0 to 5. -/
def ofText? (cs : List Char) : Option LogThreshold :=
  match Text.unsigned? cs with
  | some n => ofNumber? n.toNat
  | none => all.find? fun t => t.name.toList == cs.map Char.toLower

end LogThreshold
end TaskEngine
