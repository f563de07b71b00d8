import RunOnce.Expression.NumberLiteral
import RunOnce.Text.CharacterNames

/-!
# Quoted texts in expressions

Letters before the quotes say whether a quoted text stands for bytes, whether
its backslashes are plain characters, and whether expressions are filled into
it. This file finds what is wrong with the escapes between the quotes.

The positions of faulty escapes count the characters of a text in which every
character outside of ASCII is spelled out by its number.
-/

namespace RunOnce.Expression

open RunOnce.Text

/-- A quoted text without its quotes. -/
structure TextLiteral where
  isBytes : Bool
  isRaw : Bool
  isFilled : Bool
  body : List Char
deriving DecidableEq, Repr

/-- Whether letters hold a small or capital letter. -/
def hasLetter (letter : Char) (letters : List Char) : Bool :=
  letters.any fun c => c == letter || c == letter.toUpper

/-- Take the quotes off a text, three on each side or one. -/
def TextLiteral.ofWritten (written : List Char) : TextLiteral :=
  let letters := written.takeWhile Char.isAlpha
  let quoted := written.drop letters.length
  let quote := quoted.take 1
  let inner := (quoted.drop 1).dropLast
  let isTriple := 4 ≤ inner.length && inner.take 2 == quote ++ quote
  { isBytes := hasLetter 'b' letters
    isRaw := hasLetter 'r' letters
    isFilled := hasLetter 'f' letters
    body := if isTriple then (inner.drop 2).take (inner.length - 4) else inner }

/-! ## Escapes in texts -/

/-- A character by its number. -/
def numbered (c : Char) : List Char :=
  '\\' :: 'U' :: hexPadded 8 c.toNat

/-- A backslash by its number. -/
def numberedBackslash : List Char :=
  "\\u005c".toList

/-- Spell out the characters outside of ASCII, and a backslash that escapes none
inside of it. -/
def spelledOut : List Char → List Char
  | [] => []
  | ['\\'] => numberedBackslash
  | '\\' :: c :: rest =>
    if 128 ≤ c.toNat then numberedBackslash ++ numbered c ++ spelledOut rest
    else '\\' :: c :: spelledOut rest
  | c :: rest => if 128 ≤ c.toNat then numbered c ++ spelledOut rest else c :: spelledOut rest

/-- How many digits the escape of a letter takes. -/
def escapeDigits? : Char → Option Nat
  | 'x' => some 2
  | 'u' => some 4
  | 'U' => some 8
  | _ => none

/-- The greatest number of a character. -/
def maxCharacter : Nat := 0x10FFFF

/-- What is wrong with the name of a character, which comes next, and how many
characters of the text belong to it. -/
def nameFault? : List Char → Option (Nat × EscapeFault)
  | '\x7b' :: rest =>
    let name := rest.takeWhile (· ≠ '\x7d')
    if name.length = rest.length || name.isEmpty then some (name.length + 1, .malformedName)
    else if isCharacterName name then none
    else some (name.length + 2, .unknownName)
  | _ => some (0, .malformedName)

/-- What is wrong with an escape, given its letter and what follows it, and how
many characters after the letter belong to it. -/
def escapeFault? (letter : Char) (rest : List Char) : Option (Nat × EscapeFault) :=
  match escapeDigits? letter with
  | some count =>
    let digits := (rest.take count).takeWhile isHexDigit
    if digits.length < count then some (digits.length, .truncated letter count)
    else if maxCharacter < ofDigits 16 (digits.filterMap (asciiDigitValue? 16)) then
      some (count, .outOfRange)
    else none
  | none => if letter = 'N' then nameFault? rest else none

/-- The first fault among escapes, in a text that starts at a position. -/
def textFault? (position : Nat) : List Char → Option Fault
  | [] => none
  | '\\' :: letter :: rest =>
    match escapeFault? letter rest with
    | some (count, fault) => some (.badEscape position (position + count + 1) fault)
    | none => textFault? (position + 2) rest
  | _ :: rest => textFault? (position + 1) rest

/-! ## Escapes in bytes -/

/-- The first fault among escapes of bytes, in a text that starts at a
position. -/
def byteFault? (position : Nat) : List Char → Option Fault
  | [] => none
  | '\\' :: letter :: rest =>
    if letter = 'x' ∧ ((rest.take 2).takeWhile isHexDigit).length < 2 then
      some (.badByteEscape position)
    else byteFault? (position + 2) rest
  | _ :: rest => byteFault? (position + 1) rest

/-- What is wrong with the characters of a quoted text. What is filled into it is
not looked at. -/
def TextLiteral.fault? (literal : TextLiteral) : Option Fault :=
  if literal.isFilled then none
  else if literal.isBytes then
    if literal.body.any fun c => 128 ≤ c.toNat then some .wideBytes
    else if literal.isRaw then none
    else byteFault? 0 literal.body
  else if literal.isRaw then none
  else textFault? 0 (spelledOut literal.body)

end RunOnce.Expression
