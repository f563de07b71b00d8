import RunOnce.Number.Reading
import RunOnce.Text.Blank
import RunOnce.Text.Lowercase
import RunOnce.Text.Split

/-!
# Styles

A style is described by words: emphases, a colour, a colour of the ground, and
a link. Two descriptions of one style have the same canonical form, by which a
style that is open is found again. A description that is none stands for itself.
-/

namespace RunOnce.Command

open RunOnce.Number
open RunOnce.Text

/-- How letters are set. The order is that of the canonical form. -/
inductive Emphasis
  | bold
  | dim
  | italic
  | underline
  | blink
  | blink2
  | reverse
  | conceal
  | strike
  | underline2
  | frame
  | encircle
  | overline
deriving DecidableEq, Repr

namespace Emphasis

/-- All of them. -/
def all : List Emphasis :=
  [bold, dim, italic, underline, blink, blink2, reverse, conceal, strike, underline2, frame,
    encircle, overline]

/-- The name of an emphasis. -/
def name : Emphasis → String
  | bold => "bold"
  | dim => "dim"
  | italic => "italic"
  | underline => "underline"
  | blink => "blink"
  | blink2 => "blink2"
  | reverse => "reverse"
  | conceal => "conceal"
  | strike => "strike"
  | underline2 => "underline2"
  | frame => "frame"
  | encircle => "encircle"
  | overline => "overline"

/-- The short names of emphases. -/
def shortNames : List (String × Emphasis) :=
  [("b", bold), ("d", dim), ("i", italic), ("u", underline), ("r", reverse), ("c", conceal),
    ("s", strike), ("uu", underline2), ("o", overline)]

/-- The emphasis of a name. -/
def ofName? (word : String) : Option Emphasis :=
  (all.find? fun emphasis => emphasis.name == word).or
    ((shortNames.find? fun entry => entry.1 == word).map Prod.snd)

end Emphasis

/-- Names of colours. -/
def colourNames : List String := [
  "default", "black", "red", "green", "yellow", "blue", "magenta", "cyan", "white", "bright_black",
  "bright_red", "bright_green", "bright_yellow", "bright_blue", "bright_magenta", "bright_cyan",
  "bright_white", "grey0", "gray0", "navy_blue", "dark_blue", "blue3", "blue1", "dark_green",
  "deep_sky_blue4", "dodger_blue3", "dodger_blue2", "green4", "spring_green4", "turquoise4",
  "deep_sky_blue3", "dodger_blue1", "green3", "spring_green3", "dark_cyan", "light_sea_green",
  "deep_sky_blue2", "deep_sky_blue1", "spring_green2", "cyan3", "dark_turquoise", "turquoise2",
  "green1", "spring_green1", "medium_spring_green", "cyan2", "cyan1", "dark_red", "deep_pink4",
  "purple4", "purple3", "blue_violet", "orange4", "grey37", "gray37", "medium_purple4",
  "slate_blue3", "royal_blue1", "chartreuse4", "dark_sea_green4", "pale_turquoise4", "steel_blue",
  "steel_blue3", "cornflower_blue", "chartreuse3", "cadet_blue", "sky_blue3", "steel_blue1",
  "pale_green3", "sea_green3", "aquamarine3", "medium_turquoise", "chartreuse2", "sea_green2",
  "sea_green1", "aquamarine1", "dark_slate_gray2", "dark_magenta", "dark_violet", "purple",
  "light_pink4", "plum4", "medium_purple3", "slate_blue1", "yellow4", "wheat4", "grey53",
  "gray53", "light_slate_grey", "light_slate_gray", "medium_purple", "light_slate_blue",
  "dark_olive_green3", "dark_sea_green", "light_sky_blue3", "sky_blue2", "dark_sea_green3",
  "dark_slate_gray3", "sky_blue1", "chartreuse1", "light_green", "pale_green1",
  "dark_slate_gray1", "red3", "medium_violet_red", "magenta3", "dark_orange3", "indian_red",
  "hot_pink3", "medium_orchid3", "medium_orchid", "medium_purple2", "dark_goldenrod",
  "light_salmon3", "rosy_brown", "grey63", "gray63", "medium_purple1", "gold3", "dark_khaki",
  "navajo_white3", "grey69", "gray69", "light_steel_blue3", "light_steel_blue", "yellow3",
  "dark_sea_green2", "light_cyan3", "light_sky_blue1", "green_yellow", "dark_olive_green2",
  "dark_sea_green1", "pale_turquoise1", "deep_pink3", "magenta2", "hot_pink2", "orchid",
  "medium_orchid1", "orange3", "light_pink3", "pink3", "plum3", "violet", "light_goldenrod3",
  "tan", "misty_rose3", "thistle3", "plum2", "khaki3", "light_goldenrod2", "light_yellow3",
  "grey84", "gray84", "light_steel_blue1", "yellow2", "dark_olive_green1", "honeydew2",
  "light_cyan1", "red1", "deep_pink2", "deep_pink1", "magenta1", "orange_red1", "indian_red1",
  "hot_pink", "dark_orange", "salmon1", "light_coral", "pale_violet_red1", "orchid2", "orchid1",
  "orange1", "sandy_brown", "light_salmon1", "light_pink1", "pink1", "plum1", "gold1",
  "navajo_white1", "misty_rose1", "thistle1", "yellow1", "light_goldenrod1", "khaki1", "wheat1",
  "cornsilk1", "grey100", "gray100", "grey3", "gray3", "grey7", "gray7", "grey11", "gray11",
  "grey15", "gray15", "grey19", "gray19", "grey23", "gray23", "grey27", "gray27", "grey30",
  "gray30", "grey35", "gray35", "grey39", "gray39", "grey42", "gray42", "grey46", "gray46",
  "grey50", "gray50", "grey54", "gray54", "grey58", "gray58", "grey62", "gray62", "grey66",
  "gray66", "grey70", "gray70", "grey74", "gray74", "grey78", "gray78", "grey82", "gray82",
  "grey85", "gray85", "grey89", "gray89", "grey93", "gray93"]

/-- Why a description is no style. -/
inductive StyleFault
  /-- A word that has no meaning where it stands. -/
  | notStyle
  /-- A part of a colour that is no number. -/
  | notNumber (fault : IntegerFault)
deriving DecidableEq, Repr

/-- What stands in parentheses after a word. -/
def arguments? (word : String) (cs : List Char) : Option (List Char) :=
  let opening := word.toList ++ ['(']
  if opening.isPrefixOf cs ∧ cs.getLast? = some ')' then
    some ((cs.drop opening.length).dropLast)
  else none

/-- Read one of the three parts of a colour. -/
def readPart (cs : List Char) : Except StyleFault Int :=
  (readInteger 10 (cs.map Char.toNat)).mapError .notNumber

/-- The form of a colour, which it is described by. -/
def readColour (word : String) : Except StyleFault String :=
  let name := lower word
  let cs := name.toList
  let accepted (isColour : Bool) : Except StyleFault String :=
    if isColour then .ok name else .error .notStyle
  if colourNames.contains name then .ok name
  else match cs, arguments? "color" cs, arguments? "rgb" cs with
    | '#' :: digits, _, _ =>
      accepted (digits.length == 6 && digits.all fun c => (asciiDigitValue? 16 c).isSome)
    | _, some digits, _ =>
      accepted (!digits.isEmpty && digits.length ≤ 3 && digits.all Char.isDigit &&
        ofDigits 10 (digits.filterMap (asciiDigitValue? 10)) ≤ 255)
    | _, _, some parts => do
      let isPart (c : Char) : Bool := (digitValue? c).isSome || c == ','
      unless !parts.isEmpty && parts.all isPart && (splitOn ',' parts).length == 3 do
        throw .notStyle
      let values ← (splitOn ',' parts).mapM readPart
      accepted (values.all (· ≤ 255))
    | _, _, _ => .error .notStyle

/-- A style. -/
structure Style where
  /-- Emphases that are on or off. -/
  emphases : List (Emphasis × Bool) := []
  colour : Option String := none
  ground : Option String := none
  link : Option String := none
deriving DecidableEq, Repr

namespace Style

/-- Turn an emphasis on or off. The last word counts. -/
def setEmphasis (style : Style) (emphasis : Emphasis) (isOn : Bool) : Style :=
  { style with
    emphases := (emphasis, isOn) :: style.emphases.filter fun entry => entry.1 != emphasis }

/-- Read the words of a style into another one. -/
def readWords (style : Style) : List String → Except StyleFault Style
  | [] => .ok style
  | word :: rest =>
    match lower word, rest with
    | "on", colour :: rest => do
      let ground ← readColour colour
      readWords { style with ground := some ground } rest
    | "not", name :: rest =>
      match Emphasis.ofName? name with
      | some emphasis => readWords (style.setEmphasis emphasis false) rest
      | none => .error .notStyle
    | "link", target :: rest => readWords { style with link := some target } rest
    | "on", [] | "not", [] | "link", [] => .error .notStyle
    | name, rest =>
      match Emphasis.ofName? name with
      | some emphasis => readWords (style.setEmphasis emphasis true) rest
      | none => do
        let colour ← readColour name
        readWords { style with colour := some colour } rest

/-- The canonical form of a style. -/
def text (style : Style) : String :=
  let emphases := Emphasis.all.filterMap fun emphasis =>
    (style.emphases.find? fun entry => entry.1 == emphasis).map fun entry =>
      if entry.2 then emphasis.name else "not " ++ emphasis.name
  let words := emphases ++ style.colour.toList ++
    (style.ground.map ("on " ++ ·)).toList ++ (style.link.map ("link " ++ ·)).toList
  if words.isEmpty then "none" else " ".intercalate words

/-- The words of a description. -/
def wordsOf (cs : List Char) : List String :=
  let spaced := cs.map fun c => if isBlank c then ' ' else c
  ((splitOn ' ' spaced).filter fun word => !word.isEmpty).map String.ofList

/-- The style that is described. The plain style has a word of its own. -/
def read (cs : List Char) : Except StyleFault Style :=
  if String.ofList (trim cs) = "none" then .ok {} else readWords {} (wordsOf cs)

/-- The form that all descriptions of a style share. -/
def canonical (cs : List Char) : Except StyleFault String :=
  match read cs with
  | .ok style => .ok style.text
  | .error .notStyle => .ok (lower (String.ofList (trim cs)))
  | .error fault => .error fault

end Style

end RunOnce.Command
