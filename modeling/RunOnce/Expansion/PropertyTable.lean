import RunOnce.Assoc
import RunOnce.Expansion.Expander
import RunOnce.Expansion.Reference
import RunOnce.Model.Project
import RunOnce.Text.Blank

/-!
# Expansion from a table of properties

The expander that resolves property references from a table of values. Names
are compared without regard to case, and of several entries for one name the
last counts. Values are put in as they are; they are not expanded again.
-/

namespace RunOnce.Expansion

open RunOnce.Model
open RunOnce.Text

/-- Values by name. Later entries take precedence. -/
structure PropertyTable where
  entries : List (String × String)
deriving DecidableEq, Repr

namespace PropertyTable

/-- The value of a name. -/
def get? (table : PropertyTable) (name : String) : Option String :=
  (table.entries.reverse.find? fun entry => sameName entry.1 name).map Prod.snd

/-- Give a name a value in place of its entries, in whatever case these are
written. -/
def replace (values : Assoc String) (name value : String) : Assoc String :=
  Assoc.set (values.filter fun entry => !sameName entry.1 name) name value

/-- The values of a project's own properties. -/
def ownValues (project : Project) : Assoc String :=
  Assoc.ofList (project.properties.map fun property => (property.name, property.expandedValue))

/-- The values of a project, overridden by global properties one after the
other. -/
def ofProject (project : Project) (globals : List (String × String)) : PropertyTable :=
  ⟨globals.foldl (fun values setting => replace values setting.1 setting.2) (ownValues project)⟩

/-- The value of one piece of an expression. -/
def expandPiece (table : PropertyTable) : Piece → Except Reason String
  | .plain characters => .ok (String.ofList characters)
  | .reference offset name =>
    let name := String.ofList (trim name)
    if name = "" then .error (.empty offset)
    else match table.get? name with
      | some value => .ok value
      | none => .error (.undefined name)
  | .unterminated offset _ => .error (.unterminated offset)

/-- Put the values of a sequence of pieces together; the leftmost piece without
a value decides the reason of a failure. -/
def expandPieces (table : PropertyTable) : List Piece → Except Reason String
  | [] => .ok ""
  | piece :: rest => do
    let first ← table.expandPiece piece
    let others ← table.expandPieces rest
    pure (first ++ others)

/-- Replace all references in an expression. -/
def expand (table : PropertyTable) : Expander := fun raw =>
  table.expandPieces (pieces 0 raw.toList)

end PropertyTable

end RunOnce.Expansion
