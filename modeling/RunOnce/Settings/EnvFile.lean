import RunOnce.Assoc
import RunOnce.Text.Blank
import RunOnce.Text.Digit

/-!
# Environment files

Settings may stand in a file of `NAME=value` lines. A line may start with
`export`; a value may be bare, in which case a comment may follow it, or stand
in single or double quotes; a name without `=` has no value. A line that is not
of this form is passed over. In a value, `${NAME}` stands for the value of a
variable and `${NAME:-text}` for that or else for the text.
-/

namespace RunOnce.EnvFile

open RunOnce.Text

/-- Blanks that do not end a line. -/
def isSpace (c : Char) : Bool :=
  isBlank c && c != '\n' && c != '\r'

/-- Whether a character ends a line. -/
def isLineEnd (c : Char) : Bool :=
  c == '\n' || c == '\r'

/-- Go past the end of the line. -/
def dropLine (cs : List Char) : List Char :=
  (cs.dropWhile fun c => !isLineEnd c).drop 1

/-- Characters of a bare name. -/
def isNameChar (c : Char) : Bool :=
  c != '=' && c != '#' && !isBlank c

/-- Leave out the word `export` and the spaces after it. -/
def dropExport : List Char → List Char
  | 'e' :: 'x' :: 'p' :: 'o' :: 'r' :: 't' :: c :: rest =>
    if isSpace c then rest.dropWhile isSpace
    else 'e' :: 'x' :: 'p' :: 'o' :: 'r' :: 't' :: c :: rest
  | cs => cs

/-- Read up to a closing quote. A backslash takes the character after it along,
so that a quote there does not close. -/
def readQuoted? (quote : Char) : List Char → Option (List Char × List Char)
  | [] => none
  | '\\' :: [] => none
  | '\\' :: d :: rest =>
    (readQuoted? quote rest).map fun read => ('\\' :: d :: read.1, read.2)
  | c :: rest =>
    if c = quote then some ([], rest)
    else (readQuoted? quote rest).map fun read => (c :: read.1, read.2)

/-- What the letter of an escape in double quotes stands for. -/
def doubleEscape? : Char → Option Char
  | '\\' => some '\\'
  | '\'' => some '\''
  | '"' => some '"'
  | 'a' => some '\x07'
  | 'b' => some '\x08'
  | 'f' => some '\x0c'
  | 'n' => some '\n'
  | 'r' => some '\r'
  | 't' => some '\t'
  | 'v' => some '\x0b'
  | _ => none

/-- What the letter of an escape in single quotes stands for. -/
def singleEscape? : Char → Option Char
  | '\\' => some '\\'
  | '\'' => some '\''
  | _ => none

/-- Replace the known escapes of a text. -/
def unescape (escape? : Char → Option Char) : List Char → List Char
  | [] => []
  | '\\' :: c :: rest =>
    match escape? c with
    | some d => d :: unescape escape? rest
    | none => '\\' :: unescape escape? (c :: rest)
  | c :: rest => c :: unescape escape? rest

/-- Cut off a comment, which follows a blank. -/
def dropComment : List Char → List Char
  | [] => []
  | c :: rest =>
    if isBlank c && (rest.dropWhile isBlank).head? == some '#' then [] else c :: dropComment rest

/-- Read the value after the `=`, and what follows it. A bare value goes to the
end of its line, without a comment and without the blanks around it. -/
def readValue? (cs : List Char) : Option (List Char × List Char) :=
  match cs.dropWhile isSpace with
  | '\'' :: rest => (readQuoted? '\'' rest).map fun read => (unescape singleEscape? read.1, read.2)
  | '"' :: rest => (readQuoted? '"' rest).map fun read => (unescape doubleEscape? read.1, read.2)
  | _ =>
    some (trim (dropComment (cs.takeWhile fun c => !isLineEnd c)),
      cs.dropWhile fun c => !isLineEnd c)

/-- Go past the rest of a line that may only hold a comment. -/
def dropLineEnd? (cs : List Char) : Option (List Char) :=
  let afterSpace := cs.dropWhile isSpace
  let afterComment :=
    if afterSpace.head? == some '#' then afterSpace.dropWhile fun c => !isLineEnd c else afterSpace
  match afterComment with
  | [] => some []
  | '\r' :: '\n' :: rest => some rest
  | c :: rest => if isLineEnd c then some rest else none

/-- Read a name in quotes or a bare one; a comment has none. -/
def readName? (cs : List Char) : Option (Option (List Char) × List Char) :=
  match cs with
  | '#' :: _ => some (none, cs)
  | '\'' :: rest =>
    let name := rest.takeWhile (· ≠ '\'')
    match name, rest.dropWhile (· ≠ '\'') with
    | _ :: _, _ :: after => some (some name, after)
    | _, _ => none
  | _ =>
    match cs.takeWhile isNameChar with
    | [] => none
    | name => some (some name, cs.dropWhile isNameChar)

/-- A name with its value, if it has one. -/
abbrev Binding := String × Option (List Char)

/-- Read one line, which starts with something that is not blank: its binding,
if it has one, and what follows it. -/
def readLine (cs : List Char) : Option Binding × List Char :=
  match readName? (dropExport cs) with
  | none => (none, dropLine (dropExport cs))
  | some (name?, rest) =>
    match rest.dropWhile isSpace with
    | '=' :: after =>
      match readValue? after with
      | none => (none, dropLine (after.dropWhile isSpace))
      | some (value, rest) =>
        match dropLineEnd? rest with
        | none => (none, dropLine (rest.dropWhile isSpace))
        | some rest => (name?.map fun name => (String.ofList name, some value), rest)
    | rest =>
      match dropLineEnd? rest with
      | none => (none, dropLine rest)
      | some rest => (name?.map fun name => (String.ofList name, none), rest)

/-- The bindings of a file, read line by line. No line is longer than the text,
so the number of its characters bounds the number of its lines. -/
def readLines : Nat → List Char → List Binding
  | 0, _ => []
  | bound + 1, cs =>
    match cs.dropWhile isBlank with
    | [] => []
    | rest =>
      match readLine rest with
      | (some binding, after) => binding :: readLines bound after
      | (none, after) => readLines bound after

/-- Replace the variables in a value. -/
def substitute (lookup : String → Option String) : Nat → List Char → List Char
  | 0, cs => cs
  | _, [] => []
  | bound + 1, '$' :: '\x7b' :: rest =>
    let name := rest.takeWhile fun c => c != '\x7d' && c != ':'
    match rest.dropWhile fun c => c != '\x7d' && c != ':' with
    | '\x7d' :: after =>
      ((lookup (String.ofList name)).getD "").toList ++ substitute lookup bound after
    | ':' :: '-' :: more =>
      match more.dropWhile (· ≠ '\x7d') with
      | _ :: after =>
        ((lookup (String.ofList name)).getD (String.ofList (more.takeWhile (· ≠ '\x7d')))).toList
          ++ substitute lookup bound after
      | [] => '$' :: substitute lookup bound ('\x7b' :: rest)
    | _ => '$' :: substitute lookup bound ('\x7b' :: rest)
  | bound + 1, c :: rest => c :: substitute lookup bound rest

/-- Give the values of a file's names, in order. Variables stand for the values
given so far, then for those of the environment. -/
def resolve (environment : List (String × String)) (bindings : List Binding) :
    Assoc (Option String) :=
  bindings.foldl
    (fun known binding =>
      let lookup (name : String) : Option String :=
        match Assoc.get? known name with
        | some value => some (value.getD "")
        | none => Assoc.get? environment name
      let value := binding.2.map fun raw =>
        String.ofList (substitute lookup raw.length raw)
      Assoc.set known binding.1 value)
    []

/-- The names of a file with their values. -/
def parse (environment : List (String × String)) (text : String) : Assoc (Option String) :=
  resolve environment (readLines text.length text.toList)

end RunOnce.EnvFile
