import BindingDocs.Text.Basic

/-!
# The log

A log entry has a level, the part of the program that it comes from, and a message.
-/

namespace BindingDocs.Log

/-- The levels that entries have. -/
inductive Level where
  | debug
  | info
  | warn
  deriving DecidableEq, Repr

/-- The name of a level, as a log line shows it. -/
def Level.name : Level → Text
  | .debug => "DEBUG".toList
  | .info => "INFO".toList
  | .warn => "WARN".toList

/-- The part of the program that an entry comes from. -/
inductive Origin where
  /-- The run as a whole. -/
  | program
  /-- The report on a source that has been read. -/
  | report
  /-- The reading of a source, line by line. -/
  | scan
  /-- The writing of pages. -/
  | writer
  deriving DecidableEq, Repr

/-- The name by which a log filter knows a part of the program. -/
def Origin.name : Origin → Text
  | .program => "perldoc".toList
  | .report => "perldoc::parser".toList
  | .scan => "perldoc::parser::scan".toList
  | .writer => "perldoc::writer".toList

/-- An entry of the log. -/
structure Entry where
  level : Level
  origin : Origin
  message : Text
  deriving DecidableEq, Repr

/-- The entry as a line, without the time stamp that a log file has in front of it. -/
def Entry.line (e : Entry) : Text := e.level.name ++ ' ' :: e.message

end BindingDocs.Log
