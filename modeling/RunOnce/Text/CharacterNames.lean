import RunOnce.Text.CharacterNames.FromAToG
import RunOnce.Text.CharacterNames.FromHToM
import RunOnce.Text.CharacterNames.FromNToZ
import RunOnce.Text.Digit
import RunOnce.Text.Ranges
import RunOnce.Text.Split

/-!
# Names of characters

A character may be given by its name. Most names are listed, as trees of words.
Some are made of a fixed start and the number of the character, and those of the
syllables of Korea are made of the sounds that they are written with.
-/

namespace RunOnce.Text

/-- The trees of names as one text. -/
def characterNames : List Char :=
  (" ".intercalate (
    characterNamesA ++ characterNamesB ++ characterNamesC ++ characterNamesD ++
    characterNamesE ++ characterNamesF ++ characterNamesG ++ characterNamesH ++
    characterNamesI ++ characterNamesJ ++ characterNamesK ++ characterNamesL ++
    characterNamesM ++ characterNamesN ++ characterNamesO ++ characterNamesP ++
    characterNamesQ ++ characterNamesR ++ characterNamesS ++ characterNamesT ++
    characterNamesU ++ characterNamesV ++ characterNamesW ++ characterNamesX ++
    characterNamesY ++ characterNamesZ)).toList

/-- Whether a word of the tree ends a name of which some words are to come. The
word is given backwards. -/
def endsName (wanted : List (List Char)) (word : List Char) : Bool :=
  if word == ['*'] then wanted.isEmpty else wanted == [word.reverse]

/-- Whether the tree holds a name, given by its words. What follows a word that
is not wanted is skipped, up to the bracket that closes it. -/
def holdsName (wanted : List (List Char)) (word : List Char) (skipped : Nat) : List Char → Bool
  | [] => endsName wanted word
  | c :: rest =>
    if 0 < skipped then
      holdsName wanted [] (if c = '(' then skipped + 1 else if c = ')' then skipped - 1 else skipped)
        rest
    else if c = ' ' then endsName wanted word || holdsName wanted [] 0 rest
    else if c = ')' then endsName wanted word
    else if c = '(' then
      if wanted.head? == some word.reverse then holdsName (wanted.drop 1) [] 0 rest
      else holdsName wanted [] 1 rest
    else holdsName wanted (c :: word) 0 rest

/-! ## Names with numbers -/

/-- The starts of names that end with a number, and the numbers. -/
def numberedNames : List (String × Ranges) := [
  ("CJK COMPATIBILITY IDEOGRAPH-", [(0xF900, 0xFA6D), (0xFA70, 0xFAD9), (0x2F800, 0x2FA1D)]),
  ("KHITAN SMALL SCRIPT CHARACTER-", [(0x18B00, 0x18CD5)]),
  ("NUSHU CHARACTER-", [(0x1B170, 0x1B2FB)])]

/-- Whether a name ends with the number of its character, without needless
zeros. -/
def isNumberedName (name : List Char) : Bool :=
  numberedNames.any fun (start, ranges) =>
    let digits := name.drop start.length
    match readDigits? 16 digits with
    | some number =>
      start.toList.isPrefixOf name && ranges.contains number &&
        (hexPadded 4 number).map Char.toUpper == digits
    | none => false

/-- The numbers of the unified ideographs. -/
def ideographRanges : Ranges := [
  (0x3400, 0x4DBF), (0x4E00, 0x9FFF), (0x20000, 0x2A6DF), (0x2A700, 0x2B738),
  (0x2B740, 0x2B81D), (0x2B820, 0x2CEA1), (0x2CEB0, 0x2EBE0), (0x30000, 0x3134A)]

/-- Whether a name is that of a unified ideograph: four or five digits, without
small letters, follow a fixed start. -/
def isIdeographName (name : List Char) : Bool :=
  let start := "CJK UNIFIED IDEOGRAPH-".toList
  let digits := name.drop start.length
  start.isPrefixOf name && (digits.length = 4 || digits.length = 5) &&
    !digits.any Char.isLower && ((readDigits? 16 digits).map ideographRanges.contains).getD false

/-! ## Names of syllables -/

/-- The sounds that a syllable starts with. -/
def initialSounds : List String :=
  ["G", "GG", "N", "D", "DD", "R", "M", "B", "BB", "S", "SS", "", "J", "JJ", "C", "K", "T", "P", "H"]

/-- The sounds in the middle of a syllable. -/
def middleSounds : List String :=
  ["A", "AE", "YA", "YAE", "EO", "E", "YEO", "YE", "O", "WA", "WAE", "OE", "YO", "U", "WEO", "WE",
    "WI", "YU", "EU", "YI", "I"]

/-- The sounds that a syllable ends with. -/
def finalSounds : List String :=
  ["", "G", "GG", "GS", "N", "NJ", "NH", "D", "L", "LG", "LM", "LB", "LS", "LT", "LP", "LH", "M",
    "B", "BS", "S", "SS", "NG", "J", "C", "K", "T", "P", "H"]

/-- Whether a name is that of a syllable. -/
def isSyllableName (name : List Char) : Bool :=
  let start := "HANGUL SYLLABLE ".toList
  let sounds := String.ofList (name.drop start.length)
  start.isPrefixOf name && initialSounds.any fun initial => middleSounds.any fun middle =>
    finalSounds.any fun final => initial ++ middle ++ final == sounds

/-- Whether some character has a name. Small letters stand for capital ones, but
not in the names of unified ideographs and syllables. -/
def isCharacterName (name : List Char) : Bool :=
  let capital := name.map Char.toUpper
  isIdeographName name || isSyllableName name || isNumberedName capital ||
    holdsName (splitOn ' ' capital) [] 0 characterNames

end RunOnce.Text
