import RunOnce.Text.Blank
import RunOnce.Text.EmojiNames
import RunOnce.Text.Lowercase
import RunOnce.Text.Split
import RunOnce.Text.Width

/-!
# Emoji

A name between colons stands for an emoji, in capital or small letters. A suffix
of the name says whether it is to be shown as an emoji or as text. What is no
name of an emoji stays as it is, with both colons.
-/

namespace RunOnce.Text.Emoji

/-- Names and emoji that take turns. -/
def pairUp : List (List Char) → List (String × List Char)
  | name :: emoji :: rest => (String.ofList name, emoji) :: pairUp rest
  | _ => []

/-- Emoji by their names. -/
def table : List (String × List Char) :=
  emojiLines.flatMap fun line => pairUp (splitOn ' ' line.toList)

/-- The suffixes of names, and the signs that they stand for. -/
def suffixes : List (List Char × List Char) :=
  [("-emoji".toList, [emojiSign]), ("-text".toList, ['\ufe0e'])]

/-- A name without its suffix, and the sign that the suffix stands for. -/
def splitSuffix (name : List Char) : List Char × List Char :=
  match suffixes.find? fun suffix => suffix.1.isSuffixOf name with
  | some (suffix, sign) => (name.take (name.length - suffix.length), sign)
  | none => (name, [])

/-- The emoji of a name. -/
def find? (name : List Char) : Option (List Char) :=
  let (stem, sign) := splitSuffix name
  (table.find? fun entry => entry.1 == lower (String.ofList stem)).map (·.2 ++ sign)

/-- Whether a character may stand in a name. -/
def isNamePart (c : Char) : Bool :=
  c != ':' && !isBlank c

/-- Replace the names of emoji by the emoji. -/
def replace (cs : List Char) : List Char :=
  match cs with
  | [] => []
  | c :: rest =>
    let name := rest.takeWhile isNamePart
    if c = ':' ∧ (rest.drop name.length).head? = some ':' then
      (find? name).getD (':' :: name ++ [':']) ++ replace (rest.drop (name.length + 1))
    else c :: replace rest
termination_by cs.length
decreasing_by all_goals simp_all; try omega

end RunOnce.Text.Emoji
