import RunOnce.Assoc
import RunOnce.Model.Target
import RunOnce.Ordering.TargetList

/-!
# Producers

A target that asks to run before or after another one is called from that other
target's procedure. `Producers` turns the declarations around: for each name it
lists the targets that asked to run before it, and after it, in the order of
their declaration and as often as they asked.
-/

namespace RunOnce.Ordering

open RunOnce.Expansion
open RunOnce.Journal
open RunOnce.Model

/-- For each name, the targets that run before it and after it. -/
structure Producers where
  beforeMap : Assoc (List String) := []
  afterMap : Assoc (List String) := []
deriving DecidableEq, Repr

namespace Producers

/-- The targets that run right before a target. -/
def before (producers : Producers) (name : String) : List String :=
  (producers.beforeMap.get? name).getD []

/-- The targets that run right after a target. -/
def after (producers : Producers) (name : String) : List String :=
  (producers.afterMap.get? name).getD []

/-- Enter one producer under each of the listed names. -/
def enter (producer : String) (names : List String) (map : Assoc (List String)) :
    Assoc (List String) :=
  names.foldl (fun map name => map.update name fun listed => listed.getD [] ++ [producer]) map

/-- Enter the declarations of one target. -/
def addTarget (expander : Expander) (producers : Producers) (target : Target) :
    Traced Failure Producers := do
  let names ← expandTargetList expander target.name OrderingField.before.label target.beforeTargets
  let beforeMap := enter target.name names producers.beforeMap
  let names ← expandTargetList expander target.name OrderingField.after.label target.afterTargets
  let afterMap := enter target.name names producers.afterMap
  pure ⟨beforeMap, afterMap⟩

/-- Enter the declarations of several targets in order. -/
def addTargets (expander : Expander) (producers : Producers) :
    List Target → Traced Failure Producers
  | [] => pure producers
  | target :: rest => do
    let producers ← producers.addTarget expander target
    producers.addTargets expander rest

/-- The producers of all targets. -/
def ofTargets (expander : Expander) (targets : List Target) : Traced Failure Producers := do
  let producers ← addTargets expander {} targets
  Traced.report (.producersIndexed producers.beforeMap.length producers.afterMap.length)
  pure producers

end Producers

end RunOnce.Ordering
