/-!
# Tokens of expressions

An expression is written with names, words of the grammar, numbers, quoted
texts, and signs. Where a line ends or changes its margin there is a token too,
unless a bracket is open.
-/

namespace RunOnce.Expression

/-- What kind of token it is. -/
inductive TokenKind
  | name
  | word
  | number
  | text
  | sign
  | newline
  | indent
  | dedent
  | ending
deriving DecidableEq, Repr

/-- A token. -/
structure Token where
  kind : TokenKind
  written : List Char
  /-- How many brackets are open after it. -/
  level : Nat
  /-- The line on which a text starts, or any other token ends. -/
  line : Nat
deriving DecidableEq, Repr

namespace Token

/-- Whether a token is a given one of its kind. -/
def is (token : Token) (kind : TokenKind) (written : List Char) : Bool :=
  token.kind = kind && token.written == written

theorem is_iff (token : Token) (kind : TokenKind) (written : List Char) :
    token.is kind written = true ↔ token.kind = kind ∧ token.written = written := by
  simp [is]

end Token

/-- The words of the grammar, which are no names. -/
def words : List String :=
  ["False", "None", "True", "and", "as", "assert", "async", "await", "break", "class", "continue",
    "def", "del", "elif", "else", "except", "finally", "for", "from", "global", "if", "import",
    "in", "is", "lambda", "nonlocal", "not", "or", "pass", "raise", "return", "try", "while",
    "with", "yield"]

/-- Names that are words in some places. -/
def softWords : List String :=
  ["_", "case", "match"]

/-- The kind of a word. -/
def wordKind (written : List Char) : TokenKind :=
  if words.contains (String.ofList written) then .word else .name

/-- The signs of more than one character, the longer ones first. -/
def longSigns : List (List Char) :=
  ["**=", "//=", "<<=", ">>=", "**", "//", "<<", ">>", "==", "!=", "<=", ">=", "<>", "->", ":=",
    "+=", "-=", "*=", "/=", "%=", "&=", "|=", "^=", "@="].map String.toList

/-- The sign that a text starts with. A character that is part of no longer one
is a sign of its own. -/
def signAt (cs : List Char) : List Char :=
  (longSigns.find? (·.isPrefixOf cs)).getD (cs.take 1)

/-- A sign is what the text starts with. -/
theorem signAt_isPrefix (cs : List Char) : signAt cs <+: cs := by
  unfold signAt
  cases found : longSigns.find? (·.isPrefixOf cs) with
  | none => exact List.take_prefix 1 cs
  | some sign =>
    have starts := List.find?_some found
    exact List.isPrefixOf_iff_prefix.mp starts

end RunOnce.Expression
