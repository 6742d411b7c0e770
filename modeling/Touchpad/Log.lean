/-!
# Log records

What an operation has to say beside its result. Records are values: an operation that logs returns
its records in the order in which it made them, and only the outermost layer prints them.
-/

namespace Touchpad.Log

/-- How important a record is, from the least to the most. -/
inductive Level where
  | trace
  | debug
  | info
  | warn
  | error
  deriving DecidableEq, Repr

def Level.name : Level → String
  | .trace => "TRACE"
  | .debug => "DEBUG"
  | .info => "INFO"
  | .warn => "WARN"
  | .error => "ERROR"

/-- One log record. -/
structure Record where
  level : Level
  text : String
  deriving DecidableEq, Repr

/-- A record on one line, its level first. -/
def Record.line (r : Record) : String := r.level.name ++ " " ++ r.text

/-- A record for following every single step. -/
def trace (text : String) : Record := ⟨.trace, text⟩

/-- A record for finding faults. -/
def debug (text : String) : Record := ⟨.debug, text⟩

/-- A record of ordinary progress. -/
def info (text : String) : Record := ⟨.info, text⟩

/-- A record of something that was worked around. -/
def warn (text : String) : Record := ⟨.warn, text⟩

end Touchpad.Log
