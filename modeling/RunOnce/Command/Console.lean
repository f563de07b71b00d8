import RunOnce.Command.Markup

/-!
# Consoles

Status lines go to the error stream, each with a symbol that tells how things
stand. A program goes to the output stream as it is, except that a stream which
is no terminal gets no terminal control sequences.
-/

namespace RunOnce.Command

/-- How things stand. -/
inductive Status
  | success
  | error
  | warning
deriving DecidableEq, Repr

namespace Status

/-- The symbol of a status, in its colour. -/
def symbol : Status → String
  | success => "[green]✓[/green]"
  | error => "[red]✗[/red]"
  | warning => "[yellow]⚠[/yellow]"

/-- The line that tells a message. -/
def line (status : Status) (message : String) : Except MarkupError String :=
  (renderMarkup (status.symbol ++ " " ++ message)).map (· ++ "\n")

end Status

/-- Whether the code of a character lies in a range. -/
def isBetween (low high c : Char) : Bool :=
  low ≤ c && c ≤ high

/-- What follows a control sequence, given what follows its first two
characters: parameters, then signs, then the character that ends it. -/
def afterSequence? (cs : List Char) : Option (List Char) :=
  match (cs.dropWhile (isBetween '0' '?')).dropWhile (isBetween ' ' '/') with
  | c :: after => if isBetween '@' '~' c then some after else none
  | [] => none

/-- Leave out the terminal control sequences of a text. Each round passes at
least one character, so the number of characters bounds the rounds. -/
def dropSequences : Nat → List Char → List Char
  | 0, _ => []
  | _, [] => []
  | bound + 1, '\x1b' :: '[' :: rest =>
    match afterSequence? rest with
    | some after => dropSequences bound after
    | none => '\x1b' :: '[' :: dropSequences bound rest
  | bound + 1, c :: rest => c :: dropSequences bound rest

/-- A text as it is written to a stream that is no terminal. -/
def plainOutput (text : String) : String :=
  String.ofList (dropSequences text.toList.length text.toList)

/-- Whether colours are to be used. They are off for good if the environment
says so, and may otherwise be turned off and on. -/
structure Console where
  offForGood : Bool := false
  offOnRequest : Bool := false
deriving DecidableEq, Repr

namespace Console

/-- Whether colours are off. -/
def noColor (console : Console) : Bool :=
  console.offOnRequest || console.offForGood

/-- Ask for colours to be off or on. -/
def request (console : Console) (off : Bool) : Console :=
  { console with offOnRequest := off }

end Console

end RunOnce.Command
