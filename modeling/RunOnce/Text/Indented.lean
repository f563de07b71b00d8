/-!
# Indented lines

Generated text is a sequence of lines at a nesting level. A line with text is
indented by its level; an empty line carries no indentation. Ready-made blocks
are taken over as they are. `Writer` runs the same rules step by step, and its
level is the number of blocks still open.
-/

namespace RunOnce.Text

/-- The indentation of a level. -/
def indentation (size level : Nat) : String :=
  String.ofList (List.replicate (level * size) ' ')

/-- One line of text at a nesting level. -/
structure Line where
  level : Nat
  text : String
deriving DecidableEq, Repr

/-- The written form of a line. -/
def Line.render (size : Nat) (line : Line) : String :=
  if line.text = "" then "\n" else indentation size line.level ++ line.text ++ "\n"

/-- The same line, nested one level deeper. -/
def Line.deepen (line : Line) : Line :=
  { line with level := line.level + 1 }

/-- The written form of a sequence of lines. -/
def renderLines (size : Nat) (lines : List Line) : String :=
  String.join (lines.map (Line.render size))

/-- A text under construction. -/
structure Writer where
  /-- Spaces per level. -/
  size : Nat
  /-- Number of blocks still open. -/
  level : Nat := 0
  /-- Everything written so far. -/
  text : String := ""
deriving DecidableEq, Repr

namespace Writer

/-- How an indented block is left. -/
inductive Departure
  | completed
  | interrupted (reason : String)
deriving DecidableEq, Repr

/-- What can be done to a writer. -/
inductive Step
  | line (text : String)
  | block (text : String)
  | enter
  | leave (departure : Departure)
deriving DecidableEq, Repr

/-- A writer whose indentation size may be given as any integer: one that is
not positive gives no indentation. -/
def ofSize (size : Int) : Writer :=
  { size := size.toNat }

/-- What a step appends to the text. -/
def appended (writer : Writer) : Step → String
  | .line text => Line.render writer.size ⟨writer.level, text⟩
  | .block text => text
  | .enter => ""
  | .leave _ => ""

/-- The level after a step: a block is closed however it is left. -/
def levelAfter (writer : Writer) : Step → Nat
  | .line _ => writer.level
  | .block _ => writer.level
  | .enter => writer.level + 1
  | .leave _ => writer.level - 1

/-- Carry out one step. -/
def apply (writer : Writer) (step : Step) : Writer :=
  { writer with level := writer.levelAfter step, text := writer.text ++ writer.appended step }

/-- Carry out a sequence of steps. -/
def run (writer : Writer) (steps : List Step) : Writer :=
  steps.foldl apply writer

end Writer

end RunOnce.Text
