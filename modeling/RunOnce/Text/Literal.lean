/-!
# String literals of the generated program

Values enter the generated program as string literals. Every backslash is
doubled. A value with a line break is written between triple quotes, any other
value between single double quotes.
-/

namespace RunOnce.Text.Literal

/-- The two characters that break a line. -/
def isLineBreak (c : Char) : Bool :=
  c == '\n' || c == '\r'

/-- Whether a value spans several lines. -/
def hasLineBreak (cs : List Char) : Bool :=
  cs.any isLineBreak

/-- Double every backslash. -/
def escape : List Char → List Char
  | [] => []
  | c :: rest => if c = '\\' then '\\' :: '\\' :: escape rest else c :: escape rest

/-- Read pairs of backslashes as single ones, from left to right. -/
def unescape : List Char → List Char
  | [] => []
  | '\\' :: '\\' :: rest => '\\' :: unescape rest
  | c :: rest => c :: unescape rest

/-- The delimiter of a block literal. -/
def blockDelimiter : List Char := ['"', '"', '"']

/-- The delimiter of a line literal. -/
def lineDelimiter : List Char := ['"']

/-- The delimiter that a value needs. -/
def delimiterFor (value : List Char) : List Char :=
  if hasLineBreak value then blockDelimiter else lineDelimiter

/-- Write a value as a literal. -/
def encodeChars (value : List Char) : List Char :=
  delimiterFor value ++ escape value ++ delimiterFor value

/-- What stands between an opening and a closing delimiter, which may not
overlap. -/
def between? (delimiter literal : List Char) : Option (List Char) :=
  if 2 * delimiter.length ≤ literal.length && delimiter.isPrefixOf literal &&
      delimiter.isSuffixOf literal then
    some ((literal.drop delimiter.length).take (literal.length - 2 * delimiter.length))
  else none

/-- The body of a literal: between triple quotes if it then spans lines, else
between single ones. -/
def body? (literal : List Char) : Option (List Char) :=
  match (between? blockDelimiter literal).filter hasLineBreak with
  | some body => some body
  | none => between? lineDelimiter literal

/-- Read a literal back; `none` when it is not delimited. -/
def decodeChars (literal : List Char) : Option (List Char) :=
  (body? literal).map unescape

/-- The literal of a value. -/
def encode (value : String) : String :=
  String.ofList (encodeChars value.toList)

/-- The value of a literal. -/
def decode (literal : String) : Option String :=
  (decodeChars literal.toList).map String.ofList

end RunOnce.Text.Literal
