/-!
# Levels of log records

Records are ranked by level, and a log keeps those at or above its threshold.
A threshold is given by name, in any case.
-/

namespace RunOnce.Journal

/-- How serious a record is. -/
inductive Level
  | debug
  | info
  | warning
  | error
  | critical
deriving DecidableEq, Repr

namespace Level

/-- The rank of a level. -/
def rank : Level → Nat
  | debug => 10
  | info => 20
  | warning => 30
  | error => 40
  | critical => 50

/-- The name shown in a log line. -/
def name : Level → String
  | debug => "debug"
  | info => "info"
  | warning => "warning"
  | error => "error"
  | critical => "critical"

/-- The level of a record, by the name under which it is logged. -/
def ofName? : String → Option Level
  | "debug" => some debug
  | "info" => some info
  | "warning" | "warn" => some warning
  | "error" | "exception" => some error
  | "critical" | "fatal" => some critical
  | _ => none

end Level

/-- The level names that users are told about. -/
def levelNames : List String :=
  ["debug", "info", "warning", "error"]

/-- A letter's capital, where that is an ASCII letter: besides the ASCII letters
the dotless i and the long s have one. -/
def asciiCapital (c : Char) : Char :=
  if c = '\u0131' then 'I' else if c = '\u017f' then 'S' else c.toUpper

/-- The threshold that a name stands for. -/
def threshold? (name : String) : Option Nat :=
  match String.ofList (name.toList.map asciiCapital) with
  | "NOTSET" => some 0
  | "DEBUG" => some 10
  | "INFO" => some 20
  | "WARNING" | "WARN" => some 30
  | "ERROR" => some 40
  | "CRITICAL" | "FATAL" => some 50
  | _ => none

/-- The message for a name that is no threshold. -/
def unknownThreshold (name : String) : String :=
  "Unknown log level '" ++ name ++ "'. Expected one of: " ++ ", ".intercalate levelNames

end RunOnce.Journal
