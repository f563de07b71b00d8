import RunOnce.Document.Moment
import RunOnce.Number.Binary64
import RunOnce.Text.Quoted

/-!
# Document values

A project description is a document: null, truth values, numbers, texts, bytes,
points in time, lists, pairs, sets and ordered mappings. This file holds the
values and the text that messages and log lines show for them.

A list or mapping may hold itself. Such a value is unrolled further than any
reader looks, and each copy carries the number by which it is known again.
-/

namespace RunOnce.Document

open RunOnce.Number
open RunOnce.Text

/-- A document. Mapping entries keep their order; a key occurs once. -/
inductive Value
  | null
  | bool (truth : Bool)
  | int (number : Int)
  | float (number : Binary64)
  /-- What a computation gives that has no number as its result. Each one is a
  value of its own, told from others by its origin. -/
  | noNumber (origin : Nat)
  | text (characters : String)
  /-- A text with codes that are no characters, and what it is kept as. -/
  | damagedText (codes : List Nat) (kept : String)
  | bytes (content : List UInt8)
  | moment (moment : Moment)
  /-- A list, with its number if it may hold itself. -/
  | list (items : List Value) (number : Option Nat := none)
  | pair (first second : Value)
  | set (members : List Value)
  /-- A mapping, with its number if it may hold itself. -/
  | mapping (entries : List (Value × Value)) (number : Option Nat := none)
deriving Repr, Inhabited

namespace Value

/-- The text of a truth value. -/
def truthText (truth : Bool) : String :=
  if truth then "True" else "False"

/-- Whether a number is one of those that are being shown. -/
def isShown (shown : List Nat) (number : Option Nat) : Bool :=
  (number.map shown.contains).getD false

mutual

/-- How a value is shown inside the values of the given numbers. One of these
values itself is only hinted at. -/
def displayInside (shown : List Nat) : Value → String
  | null => "None"
  | bool truth => truthText truth
  | int number => toString number
  | float number => number.text
  | noNumber _ => Binary64.nan.text
  | text characters => Quoted.encode characters
  | damagedText codes _ => Quoted.encodeCodes codes
  | bytes content => Quoted.encodeBytes content
  | moment point => point.display
  | list items number =>
    if isShown shown number then "[...]"
    else "[" ++ ", ".intercalate (displayItems (number.toList ++ shown) items) ++ "]"
  | pair first second =>
    "(" ++ displayInside shown first ++ ", " ++ displayInside shown second ++ ")"
  | set members =>
    if members.isEmpty then "set()"
    else "\x7b" ++ ", ".intercalate (displayItems shown members) ++ "\x7d"
  | mapping entries number =>
    if isShown shown number then "\x7b...\x7d"
    else "\x7b" ++ ", ".intercalate (displayEntries (number.toList ++ shown) entries) ++ "\x7d"

/-- How the items of a list are shown. -/
def displayItems (shown : List Nat) : List Value → List String
  | [] => []
  | item :: rest => displayInside shown item :: displayItems shown rest

/-- How the entries of a mapping are shown. -/
def displayEntries (shown : List Nat) : List (Value × Value) → List String
  | [] => []
  | (key, value) :: rest =>
    (displayInside shown key ++ ": " ++ displayInside shown value) :: displayEntries shown rest

end

/-- How a value is shown inside a message. -/
def display (value : Value) : String :=
  displayInside [] value

/-- How a value is shown on its own: a text stands without quotes. -/
def plain : Value → String
  | text characters => characters
  | damagedText codes _ => String.ofList (charsOfCodes codes)
  | moment point => point.text
  | value => display value

/-- The name of the type of a value. -/
def typeName : Value → String
  | null => "NoneType"
  | bool _ => "bool"
  | int _ => "int"
  | float _ | noNumber _ => "float"
  | text _ | damagedText .. => "str"
  | bytes _ => "bytes"
  | moment point => if point.time.isSome then "datetime.datetime" else "datetime.date"
  | list .. => "list"
  | pair .. => "tuple"
  | set _ => "set"
  | mapping .. => "dict"

/-- Whether an integer has too many digits to be shown. -/
def isUnshowable (number : Int) : Bool :=
  Nat.pow 10 4300 ≤ number.natAbs

mutual

/-- Whether a value holds nothing that cannot be shown. -/
def isShowable : Value → Bool
  | int number => !isUnshowable number
  | list items _ | set items => areShowable items
  | pair first second => isShowable first && isShowable second
  | mapping entries _ => areEntriesShowable entries
  | _ => true

/-- Whether all items can be shown. -/
def areShowable : List Value → Bool
  | [] => true
  | item :: rest => isShowable item && areShowable rest

/-- Whether all entries can be shown. -/
def areEntriesShowable : List (Value × Value) → Bool
  | [] => true
  | (key, value) :: rest => isShowable key && isShowable value && areEntriesShowable rest

end

/-- What stands for a value that cannot be shown. -/
def placeholder (value : Value) : String :=
  "<unprintable " ++ value.typeName ++ " object>"

/-- How a value is told of on its own, whatever it is. Of a text that has codes
which are no characters, these are replaced. -/
def told (value : Value) : String :=
  match value with
  | damagedText codes _ => String.ofList (lossyChars codes)
  | _ => if value.isShowable then value.plain else value.placeholder

/-- The integer that a truth value or an integer counts as when keys are
compared. -/
def integer? : Value → Option Int
  | bool truth => some truth.toNat
  | int number => some number
  | _ => none

/-- Whether two numbers are the same key. Not being a number is the same as
itself. -/
def sameFloat : Binary64 → Binary64 → Bool
  | .finite _ 0 _, .finite _ 0 _ => true
  | x, y => x == y

/-- Whether two keys of a mapping are the same key. Numbers and truth values
are the same when they are equal as numbers. -/
def sameKey : Value → Value → Bool
  | null, null => true
  | text a, text b => a == b
  | damagedText a _, damagedText b _ => a == b
  | bytes a, bytes b => a == b
  | moment a, moment b => a.isSame b
  | float a, float b => sameFloat a b
  | noNumber a, noNumber b => a == b
  | float a, b => a.toInt?.isSome && a.toInt? == integer? b
  | a, float b => b.toInt?.isSome && integer? a == b.toInt?
  | a, b => (integer? a).isSome && integer? a == integer? b

/-- Whether a value may be a key of a mapping. -/
def isKey : Value → Bool
  | list .. | set _ | mapping .. => false
  | _ => true

/-- Give a key a value: a key that is present keeps its place. -/
def setEntry (key value : Value) : List (Value × Value) → List (Value × Value)
  | [] => [(key, value)]
  | (k, v) :: rest =>
    if sameKey k key then (k, value) :: rest else (k, v) :: setEntry key value rest

/-- The entries that a sequence of settings leaves behind. -/
def entriesOf (settings : List (Value × Value)) : List (Value × Value) :=
  settings.foldl (fun entries setting => setEntry setting.1 setting.2 entries) []

/-- The mapping that a sequence of settings leaves behind. -/
def ofSettings (settings : List (Value × Value)) : Value :=
  mapping (entriesOf settings)

/-- A mapping with text keys. -/
def ofFields (fields : List (String × Value)) : Value :=
  mapping (fields.map fun field => (text field.1, field.2))

/-- A list of texts. -/
def ofTexts (texts : List String) : Value :=
  list (texts.map text)

/-- Whether a document counts as absent: null, false, zero, or empty. -/
def isVoid : Value → Bool
  | null => true
  | bool truth => !truth
  | int number => number == 0
  | float (.finite _ 0 _) => true
  | text characters => characters == ""
  | damagedText codes _ => codes.isEmpty
  | bytes content => content.isEmpty
  | list items _ => items.isEmpty
  | set members => members.isEmpty
  | mapping entries _ => entries.isEmpty
  | pair .. | moment _ | float _ | noNumber _ => false

end Value

end RunOnce.Document
