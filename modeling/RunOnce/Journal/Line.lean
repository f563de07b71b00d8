import RunOnce.Assoc
import RunOnce.Journal.Event
import RunOnce.Text.Split

/-!
# Log lines

A record is written in columns: its level, its name, where it comes from, and
its other fields sorted by key. A text field stands bare unless it holds a
character that would make the line ambiguous. Below the columns stand the calls
and the exception that a record tells of.
-/

namespace RunOnce.Journal

open RunOnce.Document
open RunOnce.Text

/-- Fill a text up with spaces to a width. -/
def padded (width : Nat) (s : String) : String :=
  s ++ String.ofList (List.replicate (width - s.length) ' ')

/-- Characters that force a text field into quotes. -/
def forcesQuotes (c : Char) : Bool :=
  c == ' ' || c == '\t' || c == '=' || c == '\r' || c == '\n' || c == '"' || c == '\''

/-- The written form of a field's value. -/
def fieldText : Value → String
  | .text characters =>
    if characters.toList.any forcesQuotes then Quoted.encode characters else characters
  | value => value.display

/-- Fields in the order of their keys. -/
def sortFields (fields : List (String × Value)) : List (String × Value) :=
  fields.mergeSort fun a b => !decide (b.1 < a.1)

/-- Fields that a log does not show: it states some of them itself, and others
ask for what there is not. -/
def unshownFields : List String :=
  ["event", "level", "timestamp", "exc_info", "stack_info"]

/-- Fields that tell where a record comes from. -/
def originFields : List String :=
  ["logger", "logger_name"]

/-- The field with the calls that led to a record. -/
def stackField : String := "stack"

/-- The field with the text of an exception. -/
def exceptionField : String := "exception"

/-- Whether a field is shown as a key with a value. -/
def isPlainField (key : String) : Bool :=
  !(unshownFields ++ originFields ++ [stackField, exceptionField]).contains key

/-- A text without the spaces at its end. -/
def trimSpaces (s : String) : String :=
  String.ofList (s.toList.reverse.dropWhile (· == ' ')).reverse

namespace Record

/-- The columns of a record. -/
def columns (record : Record) : List String :=
  let origins := originFields.filterMap fun key =>
    (Assoc.get? record.fields key).map fun value => "[" ++ value.plain ++ "]"
  let fields := (sortFields (record.fields.filter fun field => isPlainField field.1)).map
    fun field => field.1 ++ "=" ++ fieldText field.2
  ("[" ++ padded 9 record.level.name ++ "]") :: padded 30 record.name :: origins ++ fields

/-- The text of a field that is not null. -/
def given? (record : Record) (key : String) : Option String :=
  match Assoc.get? record.fields key with
  | none | some .null => none
  | some value => some value.plain

/-- What stands below the columns: the calls, then the exception, with a rule
between them. -/
def appendix (record : Record) : String :=
  let rule := "\n\n" ++ String.ofList (List.replicate 79 '=') ++ "\n"
  match record.given? stackField, record.given? exceptionField with
  | none, none => ""
  | some stack, none => "\n" ++ stack
  | none, some cause => "\n" ++ cause
  | some stack, some cause => "\n" ++ stack ++ rule ++ "\n" ++ cause

/-- The text of a record. -/
def text (record : Record) : String :=
  trimSpaces (" ".intercalate record.columns) ++ record.appendix

/-- The lines of a record. -/
def lines (record : Record) : List String :=
  (splitOn '\n' record.text.toList).map String.ofList

end Record

/-- The lines of the records at or above a threshold. -/
def linesFrom (threshold : Nat) (records : List Record) : List String :=
  (records.filter fun record => decide (threshold ≤ record.level.rank)).flatMap Record.lines

/-- Why a record cannot be logged. -/
inductive RecordFault
  /-- A field whose name is that of something the record has in any case. -/
  | repeatedField (holder field : String)
  /-- Calls or an exception that are no text, but a value of a type. -/
  | notText (type : String)
deriving DecidableEq, Repr

/-- The text of a fault. -/
def RecordFault.message : RecordFault → String
  | repeatedField holder field =>
    holder ++ "() got multiple values for argument '" ++ field ++ "'"
  | notText type => "can only concatenate str (not \"" ++ type ++ "\") to str"

namespace Record

/-- The value of a field that should be a text and is none. -/
def misplaced? (record : Record) (key : String) : Option Value :=
  match Assoc.get? record.fields key with
  | none | some .null | some (.text _) => none
  | some value => some value

/-- What stands in the way of a record that is written. -/
def fault? (record : Record) : Option RecordFault :=
  ((record.misplaced? stackField).or (record.misplaced? exceptionField)).map
    fun value => .notText value.typeName

end Record

/-- A request to log a record, by one of the names that levels have. -/
structure LogRequest where
  level : Level
  /-- Whether the request is for the record of an exception. -/
  isException : Bool := false
  name : String
  fields : List (String × Value)

namespace LogRequest

/-- The places that take over a request, each with the names that it gives
values to itself. -/
def takers (threshold : Nat) (request : LogRequest) : List (String × List String) :=
  let given := ["self", "event"]
  (if request.isException then [("exception", given)] else []) ++
    if threshold ≤ request.level.rank then
      [("_make_filtering_bound_logger.<locals>.make_method.<locals>.meth", given),
        ("BoundLoggerBase._proxy_to_logger", ["method_name"])]
    else [("_nop", given)]

/-- What is wrong with a request. Of two fields that repeat something the first
one counts. -/
def fault? (threshold : Nat) (request : LogRequest) : Option RecordFault :=
  (request.takers threshold).findSome? fun (holder, names) =>
    (request.fields.find? fun field => names.contains field.1).map fun field =>
      .repeatedField holder field.1

/-- The record that a request asks for, given the fields that all records
have. -/
def record (common : List (String × Value)) (request : LogRequest) : Record :=
  ⟨request.level, request.name, Assoc.ofList (common ++ request.fields)⟩

/-- The lines that a request adds to a log. -/
def lines (threshold : Nat) (common : List (String × Value)) (request : LogRequest) :
    Except RecordFault (List String) := do
  let record := request.record common
  if let some fault := request.fault? threshold then throw fault
  if threshold ≤ record.level.rank then
    if let some fault := record.fault? then throw fault
    return record.lines
  return []

end LogRequest

/-- The lines of a log after some requests. -/
def logLines (threshold : Nat) (common : List (String × Value)) (requests : List LogRequest) :
    Except RecordFault (List String) :=
  (requests.mapM (LogRequest.lines threshold common)).map List.flatten

end RunOnce.Journal
