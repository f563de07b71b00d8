import RunOnce.Ordering.CallGraph

/-!
# Dangling references

Ordering lists may name targets that are not declared. Calls to them are still
written, so they are only reported. A list that cannot be expanded is read as
it stands.
-/

namespace RunOnce.Ordering

open RunOnce.Expansion
open RunOnce.Journal
open RunOnce.Model
open RunOnce.Text

/-- A reference to a target that is not declared. -/
structure Dangling where
  /-- The target that declares the list. -/
  target : String
  field : OrderingField
  /-- The name that is not declared. -/
  missing : String
deriving DecidableEq, Repr

namespace Dangling

/-- The undeclared names in one list of a target. -/
def inField (expander : Expander) (known : List String) (target : Target)
    (field : OrderingField) : Traced Empty (List Dangling) :=
  let raw := field.raw target
  if hasText raw then do
    let list ← expandOrRaw expander raw
    pure (((splitTargetList list).filter (· ∉ known)).map (⟨target.name, field, ·⟩))
  else pure []

/-- The undeclared names in the lists of one target. -/
def inFields (expander : Expander) (known : List String) (target : Target) :
    List OrderingField → Traced Empty (List Dangling)
  | [] => pure []
  | field :: rest => do
    let here ← inField expander known target field
    let later ← inFields expander known target rest
    pure (here ++ later)

/-- The undeclared names among several targets. -/
def among (expander : Expander) (known : List String) :
    List Target → Traced Empty (List Dangling)
  | [] => pure []
  | target :: rest => do
    let here ← inFields expander known target OrderingField.all
    let later ← among expander known rest
    pure (here ++ later)

/-- All references of the targets to names that none of them declares. -/
def ofTargets (expander : Expander) (targets : List Target) : Traced Empty (List Dangling) :=
  among expander (declaredNames targets) targets

end Dangling

end RunOnce.Ordering
