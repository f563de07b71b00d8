/-!
# Compiler settings

Settings change how a program is laid out and which checks are made, not what
the program does.
-/

namespace RunOnce

/-- The order in which task parameters are written. -/
inductive ParameterOrder
  | sorted
  | declared
deriving DecidableEq, Repr

/-- The name of a parameter order. -/
def ParameterOrder.label : ParameterOrder → String
  | sorted => "sorted"
  | declared => "declared"

/-- The compiler's settings. -/
structure Settings where
  parameterOrder : ParameterOrder := .sorted
  /-- Whether record types are written. -/
  emitItemSchemas : Bool := true
  /-- Whether a cyclic call graph is refused. -/
  detectCycles : Bool := false
  /-- How many targets are compiled at a time. -/
  maxWorkers : Nat := 1
  /-- Spaces per level of indentation. -/
  indentSize : Nat := 4
  /-- The property that names the default target when the project does not. -/
  defaultTargetProperty : String := "MSBuildProjectDefaultTargets"
deriving DecidableEq, Repr

end RunOnce
