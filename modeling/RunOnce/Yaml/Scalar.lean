import RunOnce.Document.Value
import RunOnce.Number.Reading
import RunOnce.Text.Lowercase
import RunOnce.Text.Split
import RunOnce.Yaml.Token

/-!
# Scalars

A plain scalar stands for a value of the type whose form its text has: a truth
value, a number, null, a date, a merge key, or else a text. This file holds the
forms and the values.
-/

namespace RunOnce.Yaml.Scalar

open RunOnce.Document
open RunOnce.Number
open RunOnce.Text

/-! ## Forms -/

/-- Whether a text is not empty and all its characters pass a test. -/
def nonEmptyAll (test : Char → Bool) (cs : List Char) : Bool :=
  !cs.isEmpty && cs.all test

/-- A digit or an underscore. -/
def isDigitPart (c : Char) : Bool :=
  c.isDigit || c == '_'

/-- Digits that may be grouped, the first one in a range. -/
def isGrouped (first : Char → Bool) : List Char → Bool
  | [] => false
  | c :: rest => first c && rest.all isDigitPart

/-- A place of a number in base sixty. -/
def isSixtieth : List Char → Bool
  | [c] => c.isDigit
  | [a, b] => '0' ≤ a && a ≤ '5' && b.isDigit
  | _ => false

/-- A digit other than zero. -/
def isLeadingDigit (c : Char) : Bool :=
  c.isDigit && c != '0'

/-- The form of an integer. -/
def isInt (cs : List Char) : Bool :=
  match (takeSign cs).2 with
  | '0' :: 'b' :: digits => nonEmptyAll (fun c => c == '0' || c == '1' || c == '_') digits
  | '0' :: 'x' :: digits =>
    nonEmptyAll (fun c => (asciiDigitValue? 16 c).isSome || c == '_') digits
  | '0' :: digits => digits.all fun c => (asciiDigitValue? 8 c).isSome || c == '_'
  | digits =>
    match splitOn ':' digits with
    | first :: places => isGrouped isLeadingDigit first && places.all isSixtieth
    | [] => false

/-- The form of an exponent, which may be missing. -/
def isExponent : List Char → Bool
  | [] => true
  | e :: sign :: digits =>
    (e == 'e' || e == 'E') && (sign == '+' || sign == '-') && nonEmptyAll Char.isDigit digits
  | _ => false

/-- The form of a fraction with an exponent. -/
def isFraction (cs : List Char) : Bool :=
  isExponent (cs.dropWhile isDigitPart)

/-- The form of a number with a fraction. -/
def isFloat (cs : List Char) : Bool :=
  let unsigned := (takeSign cs).2
  let whole := unsigned.takeWhile (· ≠ '.')
  let pointed := unsigned.dropWhile (· ≠ '.')
  let fraction := pointed.drop 1
  if pointed.isEmpty then false
  else if whole.isEmpty then
    String.ofList fraction ∈ ["inf", "Inf", "INF"] ||
      (cs.head? == some '.' && (String.ofList fraction ∈ ["nan", "NaN", "NAN"] ||
        ((fraction.head?.map Char.isDigit).getD false && isFraction fraction)))
  else
    match splitOn ':' whole with
    | [digits] => isGrouped Char.isDigit digits && isFraction fraction
    | first :: places =>
      isGrouped Char.isDigit first && places.all isSixtieth && fraction.all isDigitPart
    | [] => false

/-- The words for truth values, those in small letters among them. -/
def truthWords : List (String × Bool) :=
  [("yes", true), ("Yes", true), ("YES", true), ("no", false), ("No", false), ("NO", false),
    ("true", true), ("True", true), ("TRUE", true), ("false", false), ("False", false),
    ("FALSE", false), ("on", true), ("On", true), ("ON", true), ("off", false), ("Off", false),
    ("OFF", false)]

/-- The words for null. -/
def nullWords : List String :=
  ["", "~", "null", "Null", "NULL"]

/-! ## Points in time -/

/-- The number that digits write. -/
def natOf (digits : List Char) : Nat :=
  ofDigits 10 (digits.filterMap (asciiDigitValue? 10))

/-- Read so many digits. -/
def digitsOf? (least most : Nat) (cs : List Char) : Option (Nat × List Char) :=
  let digits := (cs.take most).takeWhile Char.isDigit
  if least ≤ digits.length then some (natOf digits, cs.drop digits.length) else none

/-- Read a character. -/
def charOf? (c : Char) : List Char → Option (List Char)
  | [] => none
  | d :: rest => if d = c then some rest else none

/-- Read the millionths of a second. -/
def readMillionths (cs : List Char) : Nat × List Char :=
  match cs with
  | '.' :: rest =>
    let digits := (rest.takeWhile Char.isDigit).take 6
    (natOf (digits ++ List.replicate (6 - digits.length) '0'), rest.dropWhile Char.isDigit)
  | _ => (0, cs)

/-- Read the offset from universal time, up to the end of the text. -/
def readOffset? (cs : List Char) : Option (Option Int) :=
  match cs.dropWhile fun c => c == ' ' || c == '\t' with
  | [] => if cs.isEmpty then some none else none
  | ['Z'] => some (some 0)
  | sign :: rest =>
    if sign == '+' || sign == '-' then do
      let (hours, rest) ← digitsOf? 1 2 rest
      let minutes ← match rest with
        | [] => some 0
        | ':' :: rest => do
          let (minutes, rest) ← digitsOf? 2 2 rest
          if rest.isEmpty then some minutes else none
        | _ => none
      pure (some (signed (sign == '-') (60 * hours + minutes)))
    else none

/-- Read what separates a date from a time of day. -/
def readTimeSeparator? : List Char → Option (List Char)
  | 'T' :: rest => some rest
  | 't' :: rest => some rest
  | cs =>
    let rest := cs.dropWhile fun c => c == ' ' || c == '\t'
    if rest.length < cs.length then some rest else none

/-- Read a date, or a date and a time of day. -/
def readMoment? (cs : List Char) : Option Moment := do
  let (year, rest) ← digitsOf? 4 4 cs
  let rest ← charOf? '-' rest
  let (month, rest) ← digitsOf? 1 2 rest
  let rest ← charOf? '-' rest
  let (day, rest) ← digitsOf? 1 2 rest
  if rest.isEmpty then some ⟨year, month, day, none, none⟩
  else
    let rest ← readTimeSeparator? rest
    let (hour, rest) ← digitsOf? 1 2 rest
    let rest ← charOf? ':' rest
    let (minute, rest) ← digitsOf? 2 2 rest
    let rest ← charOf? ':' rest
    let (second, rest) ← digitsOf? 2 2 rest
    let (millionths, rest) := readMillionths rest
    let offset ← readOffset? rest
    some ⟨year, month, day, some ⟨hour, minute, second, millionths⟩, offset⟩

/-- The form of a moment: a date on its own has all its digits. -/
def isMoment (cs : List Char) : Bool :=
  match readMoment? cs with
  | some moment => moment.time.isSome || cs.length == 10
  | none => false

/-! ## Types and values -/

/-- A text without the line feed that may end it. -/
def dropFinalBreak (cs : List Char) : List Char :=
  if 1 < cs.length ∧ cs.getLast? = some '\n' then cs.dropLast else cs

/-- The type of a plain scalar. -/
def typeOf (codes : List Nat) : String :=
  let cs := dropFinalBreak (seenChars codes)
  let word := String.ofList cs
  if truthWords.any (·.1 == word) then "bool"
  else if isFloat cs then "float"
  else if isInt cs then "int"
  else if word = "<<" then "merge"
  else if word ∈ nullWords then "null"
  else if isMoment cs then "timestamp"
  else if word = "=" then "value"
  else "str"

/-- Codes without underscores. -/
def withoutUnderscores (codes : List Nat) : List Nat :=
  codes.filter (· ≠ '_'.toNat)

/-- Take an optional sign off codes. -/
def takeCodeSign : List Nat → Bool × List Nat
  | [] => (false, [])
  | code :: rest =>
    if code = '-'.toNat then (true, rest)
    else if code = '+'.toNat then (false, rest)
    else (false, code :: rest)

/-- Read an integer in a base, or say why it is none. -/
def integerIn (base : Nat) (codes : List Nat) : Except Error Int :=
  (readInteger base codes).mapError fun fault => .unreadable (.notInteger fault)

/-- A number and its opposite. -/
def withSign (negative : Bool) (n : Int) : Int :=
  if negative then -n else n

/-- The value of an integer. -/
def intValue (codes : List Nat) : Except Error Value := do
  let (negative, codes) := takeCodeSign (withoutUnderscores codes)
  let magnitude ← match seenChars codes with
    | [] => throw (.unreadable .emptyNumber)
    | ['0'] => pure 0
    | '0' :: 'b' :: _ => integerIn 2 (codes.drop 2)
    | '0' :: 'x' :: _ => integerIn 16 (codes.drop 2)
    | '0' :: _ => integerIn 8 codes
    | _ =>
      if codes.contains ':'.toNat then do
        let places ← (splitOn ':'.toNat codes).mapM (integerIn 10)
        pure (places.foldl (fun value place => value * 60 + place) 0)
      else integerIn 10 codes
  pure (.int (withSign negative magnitude))

/-- Read a number with a fraction, or say that it is none. -/
def floatIn (codes : List Nat) : Except Error Binary64 :=
  match readFloat? (seenChars codes) with
  | some number => .ok number
  | none => .error (.unreadable (.notFloat codes))

/-- The number that places in base sixty write, summed up from the last place
on, from a place of the given weight on. A weight beyond all numbers is none. -/
def addSixtieths (sum : Binary64) (weight : Nat) : List Binary64 → Option Binary64
  | [] => some sum
  | place :: rest => do
    let factor := Binary64.ofNat weight
    guard factor.isFinite
    addSixtieths (sum.add (place.mul factor)) (weight * 60) rest

/-- The number that places in base sixty write. -/
def ofSixtieths (places : List Binary64) : Except Error Binary64 :=
  match addSixtieths (.ofNat 0) 1 places.reverse with
  | some number => .ok number
  | none => .error (.unreadable .hugeWeight)

/-- Codes with their capital letters made small. -/
def lowerCodes (codes : List Nat) : List Nat :=
  mapSeen (lowerFrom []) codes

/-- The value of a number that was computed for a scalar of a given origin. -/
def computed (origin : Nat) : Binary64 → Value
  | .nan => .noNumber origin
  | number => .float number

/-- The value of a number with a fraction, for a scalar of a given origin. -/
def floatValue (origin : Nat) (codes : List Nat) : Except Error Value := do
  let small := lowerCodes (withoutUnderscores codes)
  if small.isEmpty then throw (.unreadable .emptyNumber)
  let (negative, codes) := takeCodeSign small
  let withSign (number : Binary64) : Binary64 := if negative then number.negate else number
  let cs := seenChars codes
  if cs = ".inf".toList then pure (.float (.infinite negative))
  else if cs = ".nan".toList then pure (.float .nan)
  else if codes.contains ':'.toNat then do
    let places ← (splitOn ':'.toNat codes).mapM floatIn
    pure (computed origin (withSign (← ofSixtieths places)))
  else pure (computed origin (withSign (← floatIn codes)))

/-- The value of a truth word. -/
def boolValue (codes : List Nat) : Except Error Value :=
  let small := lowerCodes codes
  match truthWords.find? fun word => word.1.toList == seenChars small with
  | some word => .ok (.bool word.2)
  | none => .error (.unreadable (.notTruth small))

/-- The value of a moment. -/
def momentValue (codes : List Nat) : Except Error Value :=
  match readMoment? (dropFinalBreak (seenChars codes)) with
  | none => .error (.unreadable .notMoment)
  | some moment =>
    match moment.fault? with
    | some reason => .error (.unreadable (.impossibleMoment reason))
    | none => .ok (.moment moment)

/-- The codes that are not ASCII where a text first has some, with their
position. -/
def firstNotAscii? (codes : List Nat) : Option (Nat × List Nat) :=
  match (codes.dropWhile (· < 128)).takeWhile (128 ≤ ·) with
  | [] => none
  | others => some ((codes.takeWhile (· < 128)).length, others)

/-- The value of bytes in base 64. -/
def bytesValue (codes : List Nat) (mark : Mark) : Except Error Value :=
  match firstNotAscii? codes with
  | some (position, others) => .error (.at (.notAscii position others) mark)
  | none =>
    match Base64.decode (seenChars codes) with
    | .ok bytes => .ok (.bytes bytes)
    | .error fault => .error (.at (.notBase64 fault) mark)

/-- The value of a text. No stand-ins are chosen yet for codes that are no characters. -/
def textValue (codes : List Nat) : Value :=
  match codes.mapM charOfCode? with
  | some characters => .text (String.ofList characters)
  | none => .damagedText codes (String.ofList (seenChars codes))

/-- How the codes of a scalar of a type are read, if the type is a scalar type.
The origin and the position of the scalar are given. -/
def reader? : String → Option (Nat → Mark → List Nat → Except Error Value)
  | "str" => some fun _ _ codes => .ok (textValue codes)
  | "null" => some fun _ _ _ => .ok .null
  | "bool" => some fun _ _ codes => boolValue codes
  | "int" => some fun _ _ codes => intValue codes
  | "float" => some fun origin _ codes => floatValue origin codes
  | "binary" => some fun _ mark codes => bytesValue codes mark
  | "timestamp" => some fun _ _ codes => momentValue codes
  | _ => none

end RunOnce.Yaml.Scalar
