/-
  Levels of log lines, from the least to the most serious.

  Key definitions include:
    * `LogLevel`
    * `LogLevel.name`, `LogLevel.label`
-/

------------------------------------------------------------
-- Levels
------------------------------------------------------------

namespace FrameLink

/- How serious a log line is. -/
inductive LogLevel where
  | trace
  | debug
  | info
  | warn
  | error
  deriving DecidableEq

namespace LogLevel

/- Every level, from the least to the most serious. -/
def all : List LogLevel :=
  [.trace, .debug, .info, .warn, .error]

/- The name of a level in a configuration. -/
def name : LogLevel → String
  | .trace => "trace"
  | .debug => "debug"
  | .info => "info"
  | .warn => "warn"
  | .error => "error"

/- The name of a level at the head of a log line. -/
def label : LogLevel → String
  | .trace => "TRACE"
  | .debug => "DEBUG"
  | .info => "INFO"
  | .warn => "WARN"
  | .error => "ERROR"

end LogLevel

end FrameLink
