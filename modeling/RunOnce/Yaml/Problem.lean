import RunOnce.Number.Reading
import RunOnce.Text.Base64
import RunOnce.Text.Quoted
import RunOnce.Text.Utf8

/-!
# Problems in YAML text

What can be wrong with a YAML text. A problem is met at one stage of reading:
the characters, the tokens, the grammar of the tokens, the links between nodes,
or the values of nodes.
-/

namespace RunOnce.Yaml

open RunOnce.Text

/-- A position in a text: characters read, line and column, all from zero. -/
structure Mark where
  index : Nat
  line : Nat
  column : Nat
deriving DecidableEq, Repr

/-- Where in the reading of a text a problem is met. -/
inductive Stage
  | characters
  | tokens
  | grammar
  | links
  | values
deriving DecidableEq, Repr

/-- What a character should have been. -/
inductive Expectation
  | alphanumeric
  | digit
  | digitOrPoint
  | digitOrSpace
  | space
  | bang
  | closingAngle
  | uri
  | uriHex
  | hex (count : Nat)
  | commentOrBreak
  | blockIndicator
deriving DecidableEq, Repr

/-- The text of an expectation. -/
def Expectation.text : Expectation → String
  | alphanumeric => "alphabetic or numeric character"
  | digit => "a digit"
  | digitOrPoint => "a digit or '.'"
  | digitOrSpace => "a digit or ' '"
  | space => "' '"
  | bang => "'!'"
  | closingAngle => "'>'"
  | uri => "URI"
  | uriHex => "URI escape sequence of 2 hexadecimal numbers"
  | hex count => "escape sequence of " ++ toString count ++ " hexadecimal numbers"
  | commentOrBreak => "a comment or a line break"
  | blockIndicator => "chomping or indentation indicators"

/-- A problem. Tokens are named by their labels. -/
inductive Problem
  | cannotStart (found : Char)
  | colonMissing
  | sequenceEntryMisplaced
  | mappingKeyMisplaced
  | mappingValueMisplaced
  | expected (what : Expectation) (found : Char)
  | zeroIndentation
  | unknownEscape (found : Char)
  | unexpectedEnd
  | unexpectedSeparator
  | undecodableUri (fault : Utf8Fault)
  | expectedDocumentStart (found : String)
  | repeatedVersion
  | incompatibleVersion
  | repeatedHandle (handle : String)
  | undefinedHandle (handle : String)
  | expectedContent (found : String)
  | expectedBlockEnd (found : String)
  | expectedInSequence (found : String)
  | expectedInMapping (found : String)
  | undefinedAlias (name : String)
  | repeatedAnchor
  | anotherDocument
  | unknownTag (tag : String)
  | unusableKey
  | expectedNode (wanted found : String)
  | expectedMapping (found : String)
  | expectedMappings (found : String)
  | expectedSequence (found : String)
  | expectedSingleMapping (found : String)
  | expectedSingleEntry (count : Nat)
  /-- Codes of bytes that are not ASCII, with their position. -/
  | notAscii (position : Nat) (codes : List Nat)
  | notBase64 (fault : Base64.Fault)
deriving DecidableEq, Repr

/-- The text about codes that are not ASCII. -/
def notAsciiText (position : Nat) (codes : List Nat) : String :=
  let place := match codes with
    | [code] =>
      "character '" ++ String.ofList (Quoted.codeEscape code) ++ "' in position " ++
        toString position
    | _ =>
      "characters in position " ++ toString position ++ "-" ++
        toString (position + codes.length - 1)
  "failed to convert base64 data into ascii: 'ascii' codec can't encode " ++ place ++
    ": ordinal not in range(128)"

namespace Problem

/-- The stage at which a problem is met. -/
def stage : Problem → Stage
  | cannotStart _ | colonMissing | sequenceEntryMisplaced | mappingKeyMisplaced
  | mappingValueMisplaced | expected .. | zeroIndentation | unknownEscape _ | unexpectedEnd
  | unexpectedSeparator | undecodableUri _ => .tokens
  | expectedDocumentStart _ | repeatedVersion | incompatibleVersion | repeatedHandle _
  | undefinedHandle _ | expectedContent _ | expectedBlockEnd _ | expectedInSequence _
  | expectedInMapping _ => .grammar
  | undefinedAlias _ | repeatedAnchor | anotherDocument => .links
  | unknownTag _ | unusableKey | expectedNode .. | expectedMapping _ | expectedMappings _
  | expectedSequence _ | expectedSingleMapping _ | expectedSingleEntry _ | notAscii ..
  | notBase64 _ => .values

/-- The text of a problem. -/
def text : Problem → String
  | cannotStart found =>
    "found character " ++ Quoted.encodeCharacter found ++ " that cannot start any token"
  | colonMissing => "could not find expected ':'"
  | sequenceEntryMisplaced => "sequence entries are not allowed here"
  | mappingKeyMisplaced => "mapping keys are not allowed here"
  | mappingValueMisplaced => "mapping values are not allowed here"
  | expected what found =>
    "expected " ++ what.text ++ ", but found " ++ Quoted.encodeCharacter found
  | zeroIndentation => "expected indentation indicator in the range 1-9, but found 0"
  | unknownEscape found => "found unknown escape character " ++ Quoted.encodeCharacter found
  | unexpectedEnd => "found unexpected end of stream"
  | unexpectedSeparator => "found unexpected document separator"
  | undecodableUri fault => fault.message
  | expectedDocumentStart found =>
    "expected '<document start>', but found " ++ Quoted.encode found
  | repeatedVersion => "found duplicate YAML directive"
  | incompatibleVersion => "found incompatible YAML document (version 1.* is required)"
  | repeatedHandle handle => "duplicate tag handle " ++ Quoted.encode handle
  | undefinedHandle handle => "found undefined tag handle " ++ Quoted.encode handle
  | expectedContent found => "expected the node content, but found " ++ Quoted.encode found
  | expectedBlockEnd found => "expected <block end>, but found " ++ Quoted.encode found
  | expectedInSequence found => "expected ',' or ']', but got " ++ Quoted.encode found
  | expectedInMapping found => "expected ',' or '\x7d', but got " ++ Quoted.encode found
  | undefinedAlias name => "found undefined alias " ++ Quoted.encode name
  | repeatedAnchor => "second occurrence"
  | anotherDocument => "but found another document"
  | unknownTag tag => "could not determine a constructor for the tag " ++ Quoted.encode tag
  | unusableKey => "found unhashable key"
  | expectedNode wanted found => "expected a " ++ wanted ++ " node, but found " ++ found
  | expectedMapping found => "expected a mapping for merging, but found " ++ found
  | expectedMappings found =>
    "expected a mapping or list of mappings for merging, but found " ++ found
  | expectedSequence found => "expected a sequence, but found " ++ found
  | expectedSingleMapping found => "expected a mapping of length 1, but found " ++ found
  | expectedSingleEntry count =>
    "expected a single mapping item, but found " ++ toString count ++ " items"
  | notAscii position codes => notAsciiText position codes
  | notBase64 fault => "failed to decode base64 data: " ++ fault.message

end Problem

/-- Why the text of a scalar is no value of its type. -/
inductive Unreadable
  | notInteger (fault : Number.IntegerFault)
  | notFloat (codes : List Nat)
  /-- A number in base sixty with more places than a number can have. -/
  | hugeWeight
  /-- A number without a character after its sign. -/
  | emptyNumber
  | notTruth (codes : List Nat)
  | notMoment
  /-- A moment that is not written as a scalar. -/
  | composedMoment
  /-- A moment that there is not, with the reason. -/
  | impossibleMoment (reason : String)
  /-- The code of an escape that is no code of a character. -/
  | noCharacter (code : Nat)
deriving DecidableEq, Repr

/-- The text about a scalar that is no value of its type. -/
def Unreadable.message : Unreadable → String
  | notInteger fault => fault.message
  | notFloat codes => "could not convert string to float: " ++ Quoted.encodeCodes codes
  | hugeWeight => "int too large to convert to float"
  | emptyNumber => "string index out of range"
  | notTruth codes => Quoted.encodeCodes codes
  | notMoment => "'NoneType' object has no attribute 'groupdict'"
  | composedMoment => "expected string or bytes-like object, got 'list'"
  | impossibleMoment reason => reason
  | noCharacter code =>
    if code < 0x80000000 then "chr() arg not in range(0x110000)"
    else "Python int too large to convert to C int"

/-- How many calls the runtime allows within one another. -/
def callLimit : Nat := 1000

/-- How many of these calls stand around the reading of a document, or are needed within
its innermost node. -/
def callsAround : Nat := 24

/-- How many collections may hold one another: each takes two calls. -/
def nestingLimit : Nat := (callLimit - callsAround) / 2

/-- How many mappings may be followed one from within the other: each takes one call. -/
def chainLimit : Nat := callLimit - callsAround

/-- Why a text cannot be read. -/
inductive Error
  /-- A problem at a position. -/
  | at (problem : Problem) (mark : Mark)
  /-- A character that may not stand in a YAML text. -/
  | unacceptable (code position : Nat)
  /-- Bytes that write no text. -/
  | notText
  /-- A scalar whose text is no value of its type. -/
  | unreadable (cause : Unreadable)
  /-- More nodes within one another than the runtime can go into. -/
  | tooDeep
deriving DecidableEq, Repr

/-- The text about a character that may not stand in the text of a file. -/
def unacceptableText (code position : Nat) (file : String) : String :=
  "unacceptable character #x" ++ String.ofList (hexPadded 4 code) ++
    ": special characters are not allowed\n  in \"" ++ file ++ "\", position " ++ toString position

end RunOnce.Yaml
