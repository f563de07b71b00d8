import RunOnce.Document.Checked
import RunOnce.Text.Blank
import RunOnce.Text.Digit
import RunOnce.Text.StandIn

/-!
# Reading scalars

Texts are read from texts and bytes only. Truth values and integers are also read from the
numbers and texts that stand for them. A text with codes that are no characters is read as
the text that it is kept as, where it may have them.
-/

namespace RunOnce.Document

open RunOnce.Number
open RunOnce.Text

/-- The text that bytes write. -/
def textOfBytes? (content : List UInt8) : Option String :=
  String.fromUTF8? ⟨content.toArray⟩

/-- Read a text, which may be given as bytes. Nothing is asked of its codes. -/
def readText : Value → Checked String
  | .text characters => .valid characters
  | .damagedText _ kept => .valid kept
  | .bytes content =>
    match textOfBytes? content with
    | some characters => .valid characters
    | none => .issue .damagedText
  | _ => .issue .notText

/-- The codes of the text that a value can be read as. -/
def Value.textCodes : Value → List Nat
  | .text characters => characters.toList.map Char.toNat
  | .damagedText codes _ => codes
  | .bytes content => ((textOfBytes? content).getD "").toList.map Char.toNat
  | _ => []

/-- A value whose text is kept with given stand-ins. -/
def Value.keep (standIns : StandIns) : Value → Value
  | .damagedText codes _ => .damagedText codes (standIns.textOf codes)
  | value => value

/-- Read a text of characters only. -/
def readCharacters : Value → Checked String
  | .damagedText .. => .issue .damagedText
  | value => readText value

/-- Read a text with at least one character. -/
def readName (value : Value) : Checked String :=
  (readCharacters value).andThen fun name => if name = "" then .issue .tooShort else .valid name

/-- Read a text or null. -/
def readTextOrNull : Value → Checked (Option String)
  | .null => .valid none
  | value => (readText value).map some

/-- The truth value that a text stands for, in any ASCII case. -/
def truthOfText? (characters : String) : Option Bool :=
  let small := characters.toLower
  if small ∈ ["0", "off", "f", "false", "n", "no"] then some false
  else if small ∈ ["1", "on", "t", "true", "y", "yes"] then some true
  else none

/-- Read the truth value that a text stands for. -/
def readBoolText (characters : String) : Checked Bool :=
  match truthOfText? characters with
  | some truth => .valid truth
  | none => .issue .unreadableBool

/-- Leave out a plus sign, which no minus sign may follow. -/
def dropPlus? : List Char → Option (List Char)
  | '+' :: '-' :: _ => none
  | '+' :: rest => some rest
  | cs => some cs

/-- Leave out zeros and underscores up to the first other character; the last
one stays if nothing but them or a fraction follows. -/
def dropLeading (last : Char) : List Char → Option (List Char)
  | [] => some [last]
  | c :: rest =>
    if c = '0' ∨ c = '_' then dropLeading c rest
    else if c = '.' then some (last :: c :: rest)
    else if c.isDigit ∨ c = '-' then some (c :: rest)
    else none

/-- Leave out the zeros that a number starts with. -/
def dropLeadingZeros? : List Char → Option (List Char)
  | '0' :: rest => dropLeading '0' rest
  | c :: rest => if c.isDigit ∨ c = '-' then some (c :: rest) else none
  | [] => none

/-- Leave out a fraction that consists of zeros. -/
def dropZeroFraction? (cs : List Char) : Option (List Char) :=
  match cs.dropWhile (· ≠ '.') with
  | [] => some cs
  | _ :: fraction =>
    if !fraction.isEmpty && fraction.all (· == '0') then some (cs.takeWhile (· ≠ '.')) else none

/-- The magnitude of an integer without its sign: leading zeros, a fraction of
zeros and single underscores between other characters are left out. -/
def bareDigits? (cs : List Char) : Option (List Char) := do
  dropSeparators? (← dropZeroFraction? (← dropLeadingZeros? cs))

/-- The plain form of the text of an integer. White space around it and a plus
sign are left out, and so is all that its magnitude does not need. -/
def plainForm? (cs : List Char) : Option (List Char) := do
  match ← dropPlus? (trimWhiteSpace cs) with
  | '-' :: magnitude => (bareDigits? magnitude).map ('-' :: ·)
  | magnitude => bareDigits? magnitude

/-- The most digits that the magnitude of an integer may have. -/
def maxIntDigits : Nat := 4300

/-- Take an optional minus sign off a character list. -/
def takeMinus : List Char → Bool × List Char
  | '-' :: cs => (true, cs)
  | cs => (false, cs)

/-- Whether a text starts as an integer in plain form that has too many digits,
whatever follows them. -/
def isOversized (cs : List Char) : Bool :=
  let magnitude := (takeMinus cs).2
  magnitude.head? != some '0' && maxIntDigits < (magnitude.takeWhile Char.isDigit).length

/-- Read an integer in plain form: a minus sign, and digits that start with a
zero only if they are one. -/
def readPlainInt? (cs : List Char) : Option Int :=
  let (negative, magnitude) := takeMinus cs
  if 1 < magnitude.length ∧ magnitude.head? = some '0' then none
  else if maxIntDigits < magnitude.length then none
  else (readDigits? 10 magnitude).map (signed negative)

/-- Read the integer that a text stands for. One that is too long as it is
written is told apart from one that cannot be read. -/
def readIntText (characters : String) : Checked Int :=
  if isOversized characters.toList then .issue .oversizedInt
  else
    match (plainForm? characters.toList).bind readPlainInt? with
    | some n => .valid n
    | none => .issue .unreadableInt

/-- Whether an integer is one that the reading of whole numbers with a fraction
gives: less than 2^63 in magnitude. -/
def isWithinWord (n : Int) : Bool :=
  -9223372036854775808 < n && n < 9223372036854775808

/-- Read the truth value that an integer stands for. -/
def readBoolInt (n : Int) : Checked Bool :=
  if n = 0 then .valid false else if n = 1 then .valid true else .issue .unreadableBool

/-- Read a truth value. -/
def readBool : Value → Checked Bool
  | .bool truth => .valid truth
  | .int n => if fitsWord n then readBoolInt n else .issue .notBool
  | .float x =>
    match x.toInt? with
    | some n => if isWithinWord n then readBoolInt n else .issue .notBool
    | none => .issue .notBool
  | .text characters => readBoolText characters
  | .damagedText .. => .issue .damagedText
  | .bytes content => ((textOfBytes? content).map readBoolText).getD (.issue .unreadableBool)
  | _ => .issue .notBool

/-- Read an integer. -/
def readInt : Value → Checked Int
  | .int n => .valid n
  | .bool truth => .valid (if truth then 1 else 0)
  | .float x =>
    if !x.isFinite then .issue .notFinite
    else match x.toInt? with
      | none => .issue .fractionalInt
      | some n =>
        if isWithinWord n then .valid n else .issue .oversizedInt
  | .noNumber _ => .issue .notFinite
  | .text characters => readIntText characters
  | .damagedText .. => .issue .damagedText
  | .bytes content => ((textOfBytes? content).map readIntText).getD (.issue .unreadableInt)
  | _ => .issue .notInt

/-- Read an integer between two bounds. -/
def readIntBetween (low high : Nat) (value : Value) : Checked Nat :=
  (readInt value).andThen fun n =>
    if n < low then .issue (.belowBound low)
    else if (high : Int) < n then .issue (.aboveBound high)
    else .valid n.toNat

/-- Read one of several words. -/
def readLiteral {α : Type} (words : List (String × α)) (value : Value) : Checked α :=
  let found? := match value with
    | .text word => (words.find? fun entry => entry.1 == word).map Prod.snd
    | _ => none
  match found? with
  | some meaning => .valid meaning
  | none => .issue (.notLiteral (words.map Prod.fst))

end RunOnce.Document
