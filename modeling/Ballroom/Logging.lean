import Ballroom.Logging.Filter

/-! # Logging settings

What is logged and how: levels, forms and filters.  A program can start logging once
only. -/

namespace Ballroom

/-- How grave a message is, the least grave first. -/
inductive LogLevel where
  | trace
  | debug
  | info
  | warn
  | error
  deriving DecidableEq, Repr

namespace LogLevel

/-- Every level, the least grave first. -/
def all : List LogLevel := [trace, debug, info, warn, error]

/-- The level in a filter. -/
def directive : LogLevel → String
  | trace => "trace"
  | debug => "debug"
  | info => "info"
  | warn => "warn"
  | error => "error"

/-- The name of the level. -/
def name : LogLevel → String
  | trace => "Trace"
  | debug => "Debug"
  | info => "Info"
  | warn => "Warn"
  | error => "Error"

/-- The levels that are less grave. -/
def below (level : LogLevel) : List LogLevel := all.takeWhile (· ≠ level)

end LogLevel

/-- The form of the messages. -/
inductive LogFormat where
  | pretty
  | json
  | compact
  deriving DecidableEq, Repr

/-- Every form. -/
def LogFormat.all : List LogFormat := [pretty, json, compact]

/-- The name of the form. -/
def LogFormat.name : LogFormat → String
  | pretty => "Pretty"
  | json => "Json"
  | compact => "Compact"

/-- What is logged and how. -/
structure LoggingConfig where
  format : LogFormat := .pretty
  level : LogLevel := .info
  /-- A filter that replaces the one made from the level. -/
  filter? : Option String := none
  enableSpans : Bool := true
  displayTarget : Bool := true
  displayThreadInfo : Bool := false
  deriving DecidableEq, Repr

/-- Why logging was not started. -/
inductive LoggingFault where
  /-- The filter is none. -/
  | invalidFilter
  /-- Logging has been started before. -/
  | alreadyStarted
  deriving DecidableEq, Repr

/-- The wording of a fault. -/
def LoggingFault.message : LoggingFault → String
  | invalidFilter => "Configuration error: Invalid log filter"
  | alreadyStarted => "Configuration error: Failed to initialize logging"

/-- Starts logging in a program in which it has been started before: the filter is still
looked at first. -/
def LoggingConfig.restart (config : LoggingConfig) : LoggingFault :=
  match config.filter? with
  | some filter => if LogFilter.isValid filter then .alreadyStarted else .invalidFilter
  | none => .alreadyStarted

end Ballroom
