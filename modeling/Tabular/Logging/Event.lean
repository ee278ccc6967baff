/-!
# Log events

## Main definitions

- `LogLevel` — how important an event is
- `LogEvent` — a level, a target and a message
-/

namespace Tabular

/-- How important an event is, the most important level first. -/
inductive LogLevel
  | error
  | warn
  | info
  | debug
  | trace
deriving DecidableEq, Repr

namespace LogLevel

/-- The place of a level; a filter lets through what is at most as verbose as itself. -/
def verbosity : LogLevel → Nat
  | error => 1
  | warn => 2
  | info => 3
  | debug => 4
  | trace => 5

/-- The name of a level. -/
def name : LogLevel → String
  | error => "ERROR"
  | warn => "WARN"
  | info => "INFO"
  | debug => "DEBUG"
  | trace => "TRACE"

end LogLevel

/-- Something worth noting. The target says which part of a program it comes from, with the parts
of its path separated by `::`. -/
structure LogEvent where
  level : LogLevel
  target : String
  message : String
deriving DecidableEq, Repr

end Tabular
