import RunOnce.Text.Comment
import RunOnce.Text.Indented
import RunOnce.Text.Literal

/-!
# Statements of the generated program

The body of a procedure is a sequence of statements. Beside the ones that act
there are remarks and comments, which show the raw text that a statement came
from, and blank lines.
-/

namespace RunOnce.Generated

open RunOnce.Text

/-- The name of the flag that says whether a target has run. -/
def runFlag (target : String) : String :=
  target ++ "Run"

/-- The statement that calls a target unless it has run. -/
def guardedCall (target : String) : String :=
  "if (!" ++ runFlag target ++ ") " ++ target ++ "();"

/-- A statement. -/
inductive Statement
  | blank
  /-- A comment up to the end of its line. -/
  | remark (text : String)
  /-- A comment between delimiters. -/
  | comment (text : String)
  /-- When the test holds, mark the target as run and return. -/
  | skipWhen (test target : String)
  /-- Call a target unless it has run. -/
  | callOnce (target : String)
  /-- Assign a value to a property. -/
  | assign (name value : String)
  /-- Call a task with named arguments. -/
  | invoke (task : String) (arguments : List (String × String))
  /-- Run the body when the test holds. -/
  | guarded (test : String) (body : List Statement)
  /-- Mark the target as run. -/
  | markRun (target : String)
deriving Repr

/-- The text of a list of named arguments. -/
def argumentsText (arguments : List (String × String)) : String :=
  ", ".intercalate (arguments.map fun argument => argument.1 ++ ": " ++ Literal.encode argument.2)

/-- The text of an assignment. -/
def assignmentText (name value : String) : String :=
  name ++ " = " ++ Literal.encode value ++ ";"

/-- The text of a task call. -/
def invocationText (task : String) (arguments : List (String × String)) : String :=
  task ++ "(" ++ argumentsText arguments ++ ");"

namespace Statement

mutual

/-- The lines of a statement at a level. -/
def lines (level : Nat) : Statement → List Line
  | blank => [⟨level, ""⟩]
  | remark text => [⟨level, "// " ++ text⟩]
  | comment text => [⟨level, Comment.encode text⟩]
  | skipWhen test target =>
    [⟨level, "if (" ++ test ++ ") \x7b " ++ runFlag target ++ " = true; return; \x7d"⟩]
  | callOnce target => [⟨level, guardedCall target⟩]
  | assign name value => [⟨level, assignmentText name value⟩]
  | invoke task arguments => [⟨level, invocationText task arguments⟩]
  | guarded test body =>
    ⟨level, "if (" ++ test ++ ")"⟩ :: ⟨level, "\x7b"⟩ ::
      linesOfAll (level + 1) body ++ [⟨level, "\x7d"⟩]
  | markRun target => [⟨level, runFlag target ++ " = true;"⟩]

/-- The lines of a sequence of statements at a level. -/
def linesOfAll (level : Nat) : List Statement → List Line
  | [] => []
  | statement :: rest => lines level statement ++ linesOfAll level rest

end

end Statement

end RunOnce.Generated
