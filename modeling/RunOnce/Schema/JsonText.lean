import RunOnce.Text.Digit

/-!
# JSON texts

A JSON value, with the order of its members, and its text: one item a line,
indented by two spaces a level, and nothing but ASCII characters.
-/

namespace RunOnce.Schema

open RunOnce.Text

/-- A JSON value. -/
inductive JsonValue
  | null
  | bool (truth : Bool)
  | number (value : Int)
  | text (characters : String)
  | array (items : List JsonValue)
  | object (members : List (String × JsonValue))
deriving Repr

namespace JsonValue

/-- The escape of a code unit. -/
def unitEscape (unit : Nat) : List Char :=
  ['\\', 'u'] ++ hexPadded 4 unit

/-- The written form of a character. What lies beyond the first plane is written
as two units. -/
def escapeChar (c : Char) : List Char :=
  if c = '"' then ['\\', '"']
  else if c = '\\' then ['\\', '\\']
  else if c = '\n' then ['\\', 'n']
  else if c = '\r' then ['\\', 'r']
  else if c = '\t' then ['\\', 't']
  else if c = '\x08' then ['\\', 'b']
  else if c = '\x0c' then ['\\', 'f']
  else if 0x20 ≤ c.toNat ∧ c.toNat ≤ 0x7E then [c]
  else if c.toNat < 0x10000 then unitEscape c.toNat
  else
    let offset := c.toNat - 0x10000
    unitEscape (0xD800 + offset / 0x400) ++ unitEscape (0xDC00 + offset % 0x400)

/-- A text in quotes. -/
def quote (characters : String) : String :=
  "\"" ++ String.ofList (characters.toList.flatMap escapeChar) ++ "\""

/-- The start of a line at a level. -/
def lineStart (level : Nat) : String :=
  "\n" ++ String.ofList (List.replicate (2 * level) ' ')

/-- Items between brackets, each on a line of its own. -/
def enclose (opening closing : String) (level : Nat) (items : List String) : String :=
  if items.isEmpty then opening ++ closing
  else opening ++ lineStart (level + 1) ++ ("," ++ lineStart (level + 1)).intercalate items ++
    lineStart level ++ closing

mutual

/-- The text of a value at a level. -/
def render (level : Nat) : JsonValue → String
  | null => "null"
  | bool truth => if truth then "true" else "false"
  | number value => toString value
  | text characters => quote characters
  | array items => enclose "[" "]" level (renderItems (level + 1) items)
  | object members => enclose "\x7b" "\x7d" level (renderMembers (level + 1) members)

/-- The texts of the items of an array. -/
def renderItems (level : Nat) : List JsonValue → List String
  | [] => []
  | item :: items => render level item :: renderItems level items

/-- The texts of the members of an object. -/
def renderMembers (level : Nat) : List (String × JsonValue) → List String
  | [] => []
  | (key, value) :: members =>
    (quote key ++ ": " ++ render level value) :: renderMembers level members

end

end JsonValue

end RunOnce.Schema
