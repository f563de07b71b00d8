import RunOnce.Text.Digit
import RunOnce.Text.Halves
import RunOnce.Text.Printable

/-!
# Quoted text

Messages and log lines show a text between quotes. Single quotes are used
unless the text holds one and holds no double quote. A backslash, the quote in
use, line feed, carriage return and tab have short escapes; any other character
that is not printable is shown by its code in two, four or eight hexadecimal
digits.
-/

namespace RunOnce.Text.Quoted

/-- The quote that surrounds a text. -/
def quoteFor (cs : List Char) : Char :=
  if cs.contains '\'' && !cs.contains '"' then '"' else '\''

/-- The code escape of a character. -/
def codeEscape (code : Nat) : List Char :=
  if code < 0x100 then '\\' :: 'x' :: hexPadded 2 code
  else if code < 0x10000 then '\\' :: 'u' :: hexPadded 4 code
  else '\\' :: 'U' :: hexPadded 8 code

/-- One character of a text between the given quotes. -/
def encodeChar (quote c : Char) : List Char :=
  if c = quote ∨ c = '\\' then ['\\', c]
  else if c = '\n' then ['\\', 'n']
  else if c = '\r' then ['\\', 'r']
  else if c = '\t' then ['\\', 't']
  else if isPrintable c then [c]
  else codeEscape c.toNat

/-- A text between quotes. -/
def encode (s : String) : String :=
  let quote := quoteFor s.toList
  String.ofList (quote :: s.toList.flatMap (encodeChar quote) ++ [quote])

/-- A text of codes between quotes, some of which may be no characters. -/
def encodeCodes (codes : List Nat) : String :=
  let quote := quoteFor (codes.filterMap charOfCode?)
  String.ofList (quote :: codes.flatMap (fun code =>
    match charOfCode? code with
    | some c => encodeChar quote c
    | none => codeEscape code) ++ [quote])

/-- One byte between the given quotes. -/
def encodeByte (quote : Char) (byte : UInt8) : List Char :=
  if byte < 0x80 then encodeChar quote (Char.ofNat byte.toNat) else codeEscape byte.toNat

/-- Bytes between quotes, after a letter that tells them from a text. -/
def encodeBytes (bytes : List UInt8) : String :=
  let quote := quoteFor (bytes.map fun byte => Char.ofNat byte.toNat)
  String.ofList ('b' :: quote :: bytes.flatMap (encodeByte quote) ++ [quote])

/-- A single character between quotes. -/
def encodeCharacter (c : Char) : String :=
  encode (String.singleton c)

end RunOnce.Text.Quoted
