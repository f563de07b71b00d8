import RunOnce.Document.Value

/-!
# Issues

What is wrong with a document, and where. An issue has a place, which is the
path from the document's root, and a cause with its code and its message.
-/

namespace RunOnce.Document

/-- One step on the way into a document. -/
inductive Step
  | key (name : String)
  | index (position : Int)
deriving DecidableEq, Repr

/-- The text of a step. -/
def Step.text : Step → String
  | key name => name
  | index position => toString position

/-- Integers that fit 64 bits with a sign. -/
def fitsWord (n : Int) : Bool :=
  decide (-9223372036854775808 ≤ n ∧ n < 9223372036854775808)

/-- The step that stands for a mapping's key: texts and small integers stand for
themselves, anything else for the text that shows it. -/
def Step.ofKey : Value → Step
  | .text name => key name
  | .int n => if fitsWord n then index n else key (Value.int n).told
  | .bool truth => index (if truth then 1 else 0)
  | .damagedText codes kept => key (Value.damagedText codes kept).told
  | value => key value.display

/-- What can be wrong with a value. -/
inductive Cause
  | missing
  | notText
  | damagedText
  | tooShort
  | patternMismatch (pattern : String)
  | notList
  | notMapping
  /-- Not a mapping where a document of the named kind is wanted. -/
  | notModel (kind : String)
  /-- Not a mapping where one of several kinds is wanted. -/
  | notFields
  | tagMissing (field : String)
  | tagUnknown (shown field : String) (expected : List String)
  | notLiteral (expected : List String)
  | notBool
  | unreadableBool
  | notInt
  | unreadableInt
  | oversizedInt
  | fractionalInt
  | notFinite
  | belowBound (bound : Int)
  | aboveBound (bound : Int)
  | unknownField
  | badKey
  /-- Values that are valid one by one do not fit together. -/
  | inconsistent (text : String)
deriving DecidableEq, Repr

/-- Texts in single quotes, joined. -/
def quotedList (separator : String) (texts : List String) : String :=
  separator.intercalate (texts.map fun text => "'" ++ text ++ "'")

namespace Cause

/-- The code of a cause. -/
def code : Cause → String
  | missing => "missing"
  | notText => "string_type"
  | damagedText => "string_unicode"
  | tooShort => "string_too_short"
  | patternMismatch _ => "string_pattern_mismatch"
  | notList => "list_type"
  | notMapping => "dict_type"
  | notModel _ => "model_type"
  | notFields => "model_attributes_type"
  | tagMissing _ => "union_tag_not_found"
  | tagUnknown .. => "union_tag_invalid"
  | notLiteral _ => "literal_error"
  | notBool => "bool_type"
  | unreadableBool => "bool_parsing"
  | notInt => "int_type"
  | unreadableInt => "int_parsing"
  | oversizedInt => "int_parsing_size"
  | fractionalInt => "int_from_float"
  | notFinite => "finite_number"
  | belowBound _ => "greater_than_equal"
  | aboveBound _ => "less_than_equal"
  | unknownField => "extra_forbidden"
  | badKey => "invalid_key"
  | inconsistent _ => "value_error"

/-- The message of a cause. -/
def message : Cause → String
  | missing => "Field required"
  | notText => "Input should be a valid string"
  | damagedText =>
    "Input should be a valid string, unable to parse raw data as a unicode string"
  | tooShort => "String should have at least 1 character"
  | patternMismatch pattern => "String should match pattern '" ++ pattern ++ "'"
  | notList => "Input should be a valid list"
  | notMapping => "Input should be a valid dictionary"
  | notModel kind => "Input should be a valid dictionary or instance of " ++ kind
  | notFields => "Input should be a valid dictionary or object to extract fields from"
  | tagMissing field => "Unable to extract tag using discriminator '" ++ field ++ "'"
  | tagUnknown shown field expected =>
    "Input tag '" ++ shown ++ "' found using '" ++ field ++
      "' does not match any of the expected tags: " ++ quotedList ", " expected
  | notLiteral expected => "Input should be " ++ quotedList " or " expected
  | notBool => "Input should be a valid boolean"
  | unreadableBool => "Input should be a valid boolean, unable to interpret input"
  | notInt => "Input should be a valid integer"
  | unreadableInt => "Input should be a valid integer, unable to parse string as an integer"
  | oversizedInt => "Unable to parse input string as an integer, exceeded maximum size"
  | fractionalInt => "Input should be a valid integer, got a number with a fractional part"
  | notFinite => "Input should be a finite number"
  | belowBound bound => "Input should be greater than or equal to " ++ toString bound
  | aboveBound bound => "Input should be less than or equal to " ++ toString bound
  | unknownField => "Extra inputs are not permitted"
  | badKey => "Keys should be strings"
  | inconsistent text => "Value error, " ++ text

end Cause

/-- Something wrong at a place. -/
structure Issue where
  place : List Step
  cause : Cause
deriving DecidableEq, Repr

/-- The line that tells of an issue. -/
def Issue.line (issue : Issue) : String :=
  let place := ".".intercalate (issue.place.map Step.text)
  if place = "" then "  - " ++ issue.cause.message
  else "  - " ++ place ++ ": " ++ issue.cause.message

/-- The message that lists issues. -/
def issuesMessage (issues : List Issue) : String :=
  "\n".intercalate ("Validation failed:" :: issues.map Issue.line)

end RunOnce.Document
