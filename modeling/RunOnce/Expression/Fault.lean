import RunOnce.Expression.Complaint
import RunOnce.Number.Reading
import RunOnce.Text.Digit

/-!
# Faults of expressions

What can be wrong with the text of an expression: with its characters, numbers
and brackets, with its quoted texts, and with the order of its tokens.
-/

namespace RunOnce.Expression

open RunOnce.Text

/-- How a number is written. -/
inductive NumberForm
  | decimal
  | imaginary
  | hexadecimal
  | octal
  | binary
deriving DecidableEq, Repr

/-- The name of a form of numbers. -/
def NumberForm.name : NumberForm → String
  | decimal => "decimal"
  | imaginary => "imaginary"
  | hexadecimal => "hexadecimal"
  | octal => "octal"
  | binary => "binary"

/-- What is wrong with an escape in a quoted text. -/
inductive EscapeFault
  /-- Fewer digits than the letter of the escape asks for. -/
  | truncated (letter : Char) (digits : Nat)
  /-- A number that no character has. -/
  | outOfRange
  /-- A name that is not in braces, or an empty one. -/
  | malformedName
  /-- A name that no character has. -/
  | unknownName
deriving DecidableEq, Repr

/-- The text about an escape. -/
def EscapeFault.text : EscapeFault → String
  | truncated letter digits =>
    "truncated \\" ++ String.ofList (letter :: List.replicate digits 'X') ++ " escape"
  | outOfRange => "illegal Unicode character"
  | malformedName => "malformed \\N character escape"
  | unknownName => "unknown Unicode character name"

/-- What is wrong with a text that expressions are filled into. -/
inductive FillFault
  /-- A brace is not closed, or something else stands where it should be. -/
  | braceMissing
  | loneBrace
  | empty
  /-- Nothing stands before the character that ends an expression. -/
  | emptyBefore (mark : Char)
  | backslash
  | comment
  | tooManyBrackets
  | tooDeep
  | unmatched (bracket : Char)
  | mismatched (closing opening : Char)
  | unterminated
  | badConversion
deriving DecidableEq, Repr

/-- The text about what is filled into a text. -/
def FillFault.text : FillFault → String
  | braceMissing => "f-string: expecting '\x7d'"
  | loneBrace => "f-string: single '\x7d' is not allowed"
  | empty => "f-string: empty expression not allowed"
  | emptyBefore mark => "f-string: expression required before '" ++ mark.toString ++ "'"
  | backslash => "f-string expression part cannot include a backslash"
  | comment => "f-string expression part cannot include '#'"
  | tooManyBrackets => "f-string: too many nested parenthesis"
  | tooDeep => "f-string: expressions nested too deeply"
  | unmatched bracket => "f-string: unmatched '" ++ bracket.toString ++ "'"
  | mismatched closing opening =>
    "f-string: closing parenthesis '" ++ closing.toString ++
      "' does not match opening parenthesis '" ++ opening.toString ++ "'"
  | unterminated => "f-string: unterminated string"
  | badConversion => "f-string: invalid conversion character: expected 's', 'r', or 'a'"

/-- What is wrong with an expression. -/
inductive Fault
  /-- The tokens stand in an order that the grammar does not have. -/
  | disordered
  | complaint (complaint : Complaint)
  | indented
  | dedented
  | unevenMargin
  | endMissing
  | neverClosed (bracket : Char)
  | unmatched (bracket : Char)
  /-- A bracket that closes one of another kind, which may be on another line. -/
  | mismatched (closing opening : Char) (line? : Option Nat)
  | tooManyBrackets
  | unterminated (isTriple : Bool) (line : Nat)
  | badNumber (form : NumberForm)
  | badDigit (digit : Char) (form : NumberForm)
  | leadingZeros
  | tooManyDigits (count : Nat)
  | strayBackslash
  | unprintable (c : Char)
  | strayCharacter (c : Char)
  | mixedTexts
  | wideBytes
  | badEscape (first last : Nat) (fault : EscapeFault)
  | badByteEscape (position : Nat)
  | fill (fault : FillFault)
  /-- A fault of an expression that is filled into a text. -/
  | filledIn (fault : Fault)
deriving DecidableEq, Repr

/-- The number of a character as it is told. -/
def characterNumber (c : Char) : String :=
  "U+" ++ String.ofList ((hexPadded 4 c.toNat).map Char.toUpper)

/-- The text about a fault. -/
def Fault.text : Fault → String
  | disordered => "invalid syntax"
  | complaint made => made.text
  | indented => "unexpected indent"
  | dedented => "unexpected unindent"
  | unevenMargin => "unindent does not match any outer indentation level"
  | endMissing => "unexpected EOF while parsing"
  | neverClosed bracket => "'" ++ bracket.toString ++ "' was never closed"
  | unmatched bracket => "unmatched '" ++ bracket.toString ++ "'"
  | mismatched closing opening line? =>
    "closing parenthesis '" ++ closing.toString ++ "' does not match opening parenthesis '" ++
      opening.toString ++ "'" ++ (line?.map fun line => " on line " ++ toString line).getD ""
  | tooManyBrackets => "too many nested parentheses"
  | unterminated isTriple line =>
    "unterminated " ++ (if isTriple then "triple-quoted string" else "string") ++
      " literal (detected at line " ++ toString line ++ ")"
  | badNumber form => "invalid " ++ form.name ++ " literal"
  | badDigit digit form => "invalid digit '" ++ digit.toString ++ "' in " ++ form.name ++ " literal"
  | leadingZeros =>
    "leading zeros in decimal integer literals are not permitted; " ++
      "use an 0o prefix for octal integers"
  | tooManyDigits count =>
    Number.tooManyDigitsText count ++
      " - Consider hexadecimal for huge integer literals to avoid decimal conversion limits."
  | strayBackslash => "unexpected character after line continuation character"
  | unprintable c => "invalid non-printable character " ++ characterNumber c
  | strayCharacter c =>
    "invalid character '" ++ c.toString ++ "' (" ++ characterNumber c ++ ")"
  | mixedTexts => "cannot mix bytes and nonbytes literals"
  | wideBytes => "bytes can only contain ASCII literal characters"
  | badEscape first last fault =>
    "(unicode error) 'unicodeescape' codec can't decode bytes in position " ++ toString first ++
      "-" ++ toString last ++ ": " ++ fault.text
  | badByteEscape position =>
    "(value error) invalid \\x escape at position " ++ toString position
  | fill fault => fault.text
  | filledIn fault => "f-string: " ++ fault.text

end RunOnce.Expression
