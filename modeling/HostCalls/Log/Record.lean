import HostCalls.Log.Level

/-!
# Log records and loggers

A record is one line of the log. A logger has a level of its own, fixed when it is made;
the level in force may be lowered and raised again, but never above that one.
-/
namespace HostCalls.Log

/-- A log line before it is written. -/
structure Record where
  level : Level
  target : String
  message : String
deriving DecidableEq, Repr

/-- The written form of a record, which ends the line. -/
def Record.line (record : Record) : String :=
  record.level.sign ++ "  " ++ record.target ++ ": " ++ record.message ++ "\n"

/-- A logger and the most verbose level that it writes. -/
structure Logger where
  initial : Level

namespace Logger

/-- Whether a record is written. -/
def enabled (logger : Logger) (record : Record) : Bool := record.level ≤ logger.initial

/-- What is written for a record. -/
def write (logger : Logger) (record : Record) : String :=
  if logger.enabled record then record.line else ""

/-- The level in force after a request for a level. -/
def adjust (logger : Logger) (level : Level) : Level := min level logger.initial

/-- What is written for records in order. -/
def writeAll (logger : Logger) (records : List Record) : String :=
  String.join (records.map logger.write)

end Logger

end HostCalls.Log
