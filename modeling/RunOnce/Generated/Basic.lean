import RunOnce.Generated.Statement
import RunOnce.Model.Property

/-!
# Generated programs

A program declares one flag per target and the initial values of properties,
then record types, then one procedure per target, and ends with a call of the
default target. Its text is laid out in that order.
-/

namespace RunOnce.Generated

open RunOnce.Model
open RunOnce.Text

/-- The procedure of a target. -/
structure Procedure where
  target : String
  body : List Statement
deriving Repr

/-- A complete program. -/
structure Program where
  /-- The targets that have a flag. -/
  flags : List String
  /-- Property names and their initial values. -/
  initializers : List (String × String)
  /-- The record types. -/
  records : List ItemSchema
  procedures : List Procedure
  /-- The target that is called in the end. -/
  entry : String
deriving Repr

/-- The lines of a procedure, with a blank line after it. -/
def Procedure.lines (procedure : Procedure) : List Line :=
  ⟨0, "void " ++ procedure.target ++ "()"⟩ :: ⟨0, "\x7b"⟩ ::
    Statement.linesOfAll 1 procedure.body ++ [⟨0, "\x7d"⟩, ⟨0, ""⟩]

/-- The text of a procedure. -/
def Procedure.text (size : Nat) (procedure : Procedure) : String :=
  renderLines size procedure.lines

/-- The line that declares a field of a record type. -/
def fieldLine (field : Metadatum) : Line :=
  ⟨1, "public string " ++ field.name ++ " \x7b get; set; \x7d = " ++
    Literal.encode field.evaluatedValue ++ ";"⟩

/-- The lines of a record type, with a blank line after it. -/
def recordLines (schema : ItemSchema) : List Line :=
  ⟨0, "class " ++ schema.itemType⟩ :: ⟨0, "\x7b"⟩ ::
    schema.metadata.map fieldLine ++ [⟨0, "\x7d"⟩, ⟨0, ""⟩]

namespace Program

/-- The lines that declare the flags. -/
def flagLines (program : Program) : List Line :=
  program.flags.map fun target => ⟨0, "bool " ++ runFlag target ++ " = false;"⟩

/-- The lines that give properties their initial values. -/
def initializerLines (program : Program) : List Line :=
  program.initializers.map fun initializer =>
    ⟨0, "var " ++ initializer.1 ++ " = " ++ Literal.encode initializer.2 ++ ";"⟩

/-- The line that calls the default target. -/
def entryLine (program : Program) : Line :=
  ⟨0, program.entry ++ "();"⟩

/-- All lines of a program. -/
def lines (program : Program) : List Line :=
  program.flagLines ++ program.initializerLines ++ [⟨0, ""⟩] ++
    program.records.flatMap recordLines ++ program.procedures.flatMap Procedure.lines ++
    [program.entryLine]

/-- The text of a program. -/
def text (size : Nat) (program : Program) : String :=
  renderLines size program.lines

end Program

end RunOnce.Generated
