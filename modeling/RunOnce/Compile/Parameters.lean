import RunOnce.Expansion.Expander
import RunOnce.Generated.Statement
import RunOnce.Model.Target
import RunOnce.Settings.Basic

/-!
# Task parameters

The parameters of a task are rendered twice: from their raw values and from
their expanded values. When the two renderings differ, the raw one is shown as
a comment.
-/

namespace RunOnce.Compile

open RunOnce.Expansion
open RunOnce.Generated
open RunOnce.Journal
open RunOnce.Model

/-- Whether a parameter may stand before another in sorted order. -/
def nameOrder (a b : String × String) : Bool :=
  !decide (b.1 < a.1)

/-- Parameters in the order in which they are written. -/
def arrange (order : ParameterOrder) (parameters : List (String × String)) :
    List (String × String) :=
  match order with
  | .sorted => parameters.mergeSort nameOrder
  | .declared => parameters

/-- Expand the values of parameters; one that has no value is kept as written. -/
def expandParameters {ε : Type} (expander : Expander) :
    List (String × String) → Traced ε (List (String × String))
  | [] => pure []
  | (name, value) :: rest => do
    let first ← expandOrRaw expander value
    let others ← expandParameters expander rest
    pure ((name, first) :: others)

/-- The two forms of a task's parameters. -/
structure Parameters where
  raw : List (String × String)
  expanded : List (String × String)
deriving DecidableEq, Repr

namespace Parameters

/-- The parameters of a task. -/
def ofTask {ε : Type} (expander : Expander) (order : ParameterOrder) (task : Task) :
    Traced ε Parameters := do
  let raw := arrange order task.parameters
  let expanded ← expandParameters expander raw
  pure ⟨raw, expanded⟩

/-- Whether the two renderings are different texts. -/
def differs (parameters : Parameters) : Bool :=
  argumentsText parameters.raw != argumentsText parameters.expanded

end Parameters

end RunOnce.Compile
