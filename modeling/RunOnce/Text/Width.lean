import RunOnce.Text.Split
import RunOnce.Text.WidthRanges

/-!
# Columns of texts

On a terminal a character takes no column, one or two. In a text, a joiner puts
the next character into the columns of those before it, and the sign that asks
for an emoji makes a character wide that is also an emoji.
-/

namespace RunOnce.Text

/-- Joins the next character to the one before. -/
def joiner : Char := '\u200d'

/-- Asks for the character before to be shown as an emoji. -/
def emojiSign : Char := '\ufe0f'

/-- Whether a character controls the terminal. -/
def isControl (c : Char) : Bool :=
  c.toNat < 0x20 || (0x7F ≤ c.toNat && c.toNat < 0xA0)

/-- The columns that a character takes on its own. -/
def columns (c : Char) : Nat :=
  if isControl c || zeroWidthRanges.contains c.toNat then 0
  else if wideRanges.contains c.toNat then 2
  else 1

/-- The columns that an emoji sign adds after a character. -/
def addedColumns : Option Char → Nat
  | some c => if textEmojiRanges.contains c.toNat then 1 else 0
  | none => 0

/-- The columns that a text takes, after the last character that took some. -/
def columnsAfter (last? : Option Char) : List Char → Nat
  | [] => 0
  | [c] => if c = emojiSign then addedColumns last? else columns c
  | c :: next :: rest =>
    if c = joiner then columnsAfter last? rest
    else if c = emojiSign then addedColumns last? + columnsAfter none (next :: rest)
    else columns c + columnsAfter (if columns c = 0 then last? else some c) (next :: rest)

/-- The columns that a text takes. -/
def textColumns (cs : List Char) : Nat :=
  columnsAfter none cs

/-- The distance of tab stops. -/
def tabSize : Nat := 8

/-- Put the parts of a line together that tabs separate, from a column on. A tab
is a space, and as many more as lead to the next tab stop. -/
def joinParts (column : Nat) : List (List Char) → List Char
  | [] => []
  | [part] => part
  | part :: rest =>
    let reached := column + textColumns (part ++ [' '])
    let more := (tabSize - reached % tabSize) % tabSize
    part ++ List.replicate (more + 1) ' ' ++ joinParts (reached + more) rest

/-- Replace each tab by spaces. -/
def expandTabs (cs : List Char) : List Char :=
  ['\n'].intercalate ((splitOn '\n' cs).map fun line => joinParts 0 (splitOn '\t' line))

end RunOnce.Text
