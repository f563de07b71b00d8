/-!
# Block comments

Raw text is kept beside the code it gave rise to in a block comment. A comment
terminator inside the text is broken up by a backslash, so the comment ends
where it is meant to.
-/

namespace RunOnce.Text.Comment

/-- Break up every comment terminator, from left to right. -/
def escape : List Char → List Char
  | [] => []
  | '*' :: '/' :: rest => '*' :: '\\' :: '/' :: escape rest
  | c :: rest => c :: escape rest

/-- A text as the body of one block comment. -/
def encodeChars (cs : List Char) : List Char :=
  '/' :: '*' :: escape cs ++ ['*', '/']

/-- A text as one block comment. -/
def encode (s : String) : String :=
  String.ofList (encodeChars s.toList)

end RunOnce.Text.Comment
