/-!
# Complaints of the grammar

Some expressions are refused with a text that says what their writer may have
meant. This file names these complaints.
-/

namespace RunOnce.Expression

/-- What the grammar has to say about an expression that it refuses. -/
inductive Complaint
  /-- Two expressions in brackets with nothing between them. -/
  | commaMissing
  /-- A condition without the expression for the other case. -/
  | elseMissing
  /-- A function that is named without brackets for its arguments. -/
  | callMissing (function : String)
  /-- Something that is no name before a colon and an equals sign. -/
  | unnamed (kind : String)
  /-- A name with a single equals sign after it. -/
  | nameAssigned
  /-- Something that is no name, with a single equals sign after it. -/
  | assigned (kind : String)
  /-- Something that cannot be a target. -/
  | badTarget (kind : String)
  /-- An argument with an equals sign that does not start with a name. -/
  | argumentAssigned
  /-- An argument with a star after other arguments. -/
  | lateUnpacking
  /-- A generator among other arguments, without brackets. -/
  | bareGenerator
  | positionalAfterUnpacking
  | positionalAfterKeyword
  | starredMember
  | bareTargets
  | unpackedMember
  | defaultOrder
  | parenthesizedParameters
  | nothingBeforeSlash
  | repeatedSlash
  | slashAfterStar
  | commaAfterSlash
  | bareStar
  | starDefault
  | repeatedStar
  | doubleStarDefault
  | afterDoubleStar
  | defaultMissing
  | starredGroup
  | doubleStarredGroup
  /-- A key without a colon, after entries that have one. -/
  | colonMissing
  /-- A key with a colon and nothing after it. -/
  | valueMissing
  | starredValue
deriving DecidableEq, Repr

/-- The text of a complaint. -/
def Complaint.text : Complaint → String
  | commaMissing => "invalid syntax. Perhaps you forgot a comma?"
  | elseMissing => "expected 'else' after 'if' expression"
  | callMissing function =>
    "Missing parentheses in call to '" ++ function ++ "'. Did you mean " ++ function ++ "(...)?"
  | unnamed kind => "cannot use assignment expressions with " ++ kind
  | nameAssigned => "invalid syntax. Maybe you meant '==' or ':=' instead of '='?"
  | assigned kind => "cannot assign to " ++ kind ++ " here. Maybe you meant '==' instead of '='?"
  | badTarget kind => "cannot assign to " ++ kind
  | argumentAssigned => "expression cannot contain assignment, perhaps you meant \"==\"?"
  | lateUnpacking => "iterable argument unpacking follows keyword argument unpacking"
  | bareGenerator => "Generator expression must be parenthesized"
  | positionalAfterUnpacking => "positional argument follows keyword argument unpacking"
  | positionalAfterKeyword => "positional argument follows keyword argument"
  | starredMember => "iterable unpacking cannot be used in comprehension"
  | bareTargets => "did you forget parentheses around the comprehension target?"
  | unpackedMember => "dict unpacking cannot be used in dict comprehension"
  | defaultOrder => "non-default argument follows default argument"
  | parenthesizedParameters => "Lambda expression parameters cannot be parenthesized"
  | nothingBeforeSlash => "at least one argument must precede /"
  | repeatedSlash => "/ may appear only once"
  | slashAfterStar => "/ must be ahead of *"
  | commaAfterSlash => "expected comma between / and *"
  | bareStar => "named arguments must follow bare *"
  | starDefault => "var-positional argument cannot have default value"
  | repeatedStar => "* argument may appear only once"
  | doubleStarDefault => "var-keyword argument cannot have default value"
  | afterDoubleStar => "arguments cannot follow var-keyword argument"
  | defaultMissing => "expected default value expression"
  | starredGroup => "cannot use starred expression here"
  | doubleStarredGroup => "cannot use double starred expression here"
  | colonMissing => "':' expected after dictionary key"
  | valueMissing => "expression expected after dictionary key and ':'"
  | starredValue => "cannot use a starred expression in a dictionary value"

end RunOnce.Expression
