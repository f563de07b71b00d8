import RunOnce.Yaml.Characters

/-!
# Cursors

A cursor stands before the next character of a text and knows its position.
The end of the text is seen as a null character, which a text never holds. A
cursor also knows the obstacle that lies ahead of it.
-/

namespace RunOnce.Yaml

/-- What is left of a text, and where that starts. -/
structure Cursor where
  rest : List Char
  mark : Mark := ⟨0, 0, 0⟩
  obstacle? : Option Obstacle := none
deriving Repr

/-- The end of the text. -/
def endMark : Char := '\x00'

/-- Characters that end a line. -/
def isBreak (c : Char) : Bool :=
  c == '\n' || c == '\r' || c == '\u0085' || c == '\u2028' || c == '\u2029'

/-- The end of a line or of the text. -/
def isBreakOrEnd (c : Char) : Bool :=
  isBreak c || c == endMark

/-- A space, or the end of a line or of the text. -/
def isSpaceOrEnd (c : Char) : Bool :=
  isBreakOrEnd c || c == ' '

/-- A space or tab, or the end of a line or of the text. -/
def isBlankOrEnd (c : Char) : Bool :=
  isSpaceOrEnd c || c == '\t'

/-- Letters and digits of names, with dash and underscore. -/
def isWordChar (c : Char) : Bool :=
  c.isAlphanum || c == '-' || c == '_'

namespace Cursor

/-- The next character. -/
def peek (cursor : Cursor) : Char :=
  cursor.rest.headD endMark

/-- The character some places ahead. -/
def peekAt (cursor : Cursor) (ahead : Nat) : Char :=
  (cursor.rest.drop ahead).headD endMark

/-- The position after a character that is followed by another one. -/
def markAfter (mark : Mark) (c next : Char) : Mark :=
  if c == '\n' || c == '\u0085' || c == '\u2028' || c == '\u2029' || (c == '\r' && next != '\n') then
    ⟨mark.index + 1, mark.line + 1, 0⟩
  else if c == '\uFEFF' then ⟨mark.index + 1, mark.line, mark.column⟩
  else ⟨mark.index + 1, mark.line, mark.column + 1⟩

/-- Go past the next character. -/
def advance (cursor : Cursor) : Cursor :=
  match cursor.rest with
  | [] => cursor
  | c :: rest => { cursor with rest, mark := markAfter cursor.mark c (rest.headD endMark) }

/-- Go past several characters. -/
def forward : Nat → Cursor → Cursor
  | 0, cursor => cursor
  | count + 1, cursor => forward count cursor.advance

/-- The characters ahead that satisfy a test. -/
def run (cursor : Cursor) (test : Char → Bool) : List Char :=
  cursor.rest.takeWhile test

/-- The error of the obstacle that is met by looking at the character some
places ahead. -/
def met? (cursor : Cursor) (ahead : Nat) : Option Error :=
  cursor.obstacle?.bind fun obstacle =>
    if obstacle.start ≤ cursor.mark.index + ahead then some obstacle.error else none

end Cursor

end RunOnce.Yaml
