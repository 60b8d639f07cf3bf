/-!
# The journal of a run

What the library reports while it works: a message with a level and with the part
of the library it comes from.  A part is known outside by its path, which is what
filters select on and what a printed record shows.
-/

namespace OperandSearch

/-- How important a record is, most important first. -/
inductive LogLevel where
  | error
  | warn
  | info
  | debug
  deriving DecidableEq, Repr

namespace LogLevel

/-- The name of a level. -/
def name : LogLevel → String
  | error => "ERROR"
  | warn => "WARN"
  | info => "INFO"
  | debug => "DEBUG"

/-- The place of a level, counted from the most important. -/
def rank : LogLevel → Nat
  | error => 1
  | warn => 2
  | info => 3
  | debug => 4

end LogLevel

/-- The part of the library a record comes from. -/
inductive LogSource where
  /-- The run of the command line tool. -/
  | tool
  /-- Commands and their registry. -/
  | command
  /-- The search of a listing. -/
  | search
  /-- The loading of a binary. -/
  | loader
  /-- The display of reports. -/
  | display
  deriving DecidableEq, Repr

/-- The path a part is known by. -/
def LogSource.path : LogSource → String
  | tool => "search_immediate"
  | command => "search_immediate::plugin"
  | search => "search_immediate::search"
  | loader => "search_immediate::host::loader"
  | display => "search_immediate::host::standalone"

/-- One message of the journal. -/
structure LogRecord where
  level : LogLevel
  source : LogSource
  message : String
  deriving DecidableEq, Repr

namespace LogRecord

/-- A record without its source. -/
def summary (record : LogRecord) : String :=
  record.level.name ++ " " ++ record.message

/-- A record as a printed line, without its end. -/
def line (record : LogRecord) : String :=
  record.level.name ++ " [" ++ record.source.path ++ "] " ++ record.message

end LogRecord
end OperandSearch
