import RunOnce.Ordering.Producers

/-!
# Call graphs

Which declared targets a target's procedure calls: its dependencies, then the
targets that run before it, then those that run after it. Names that are not
declared are left out.
-/

namespace RunOnce.Ordering

open RunOnce.Expansion
open RunOnce.Journal
open RunOnce.Model

/-- For each target, the targets that its procedure calls, in call order. -/
abbrev CallGraph := Assoc (List String)

/-- The names that targets declare. -/
def declaredNames (targets : List Target) : List String :=
  targets.map Target.name

/-- The names that a target depends on. -/
def dependencies (expander : Expander) (target : Target) : Traced Failure (List String) :=
  expandTargetList expander target.name OrderingField.dependsOn.label target.dependsOnTargets

namespace CallGraph

/-- The names that a target's procedure calls, declared or not. -/
def callees (expander : Expander) (producers : Producers) (target : Target) :
    Traced Failure (List String) := do
  let depends ← dependencies expander target
  pure (depends ++ producers.before target.name ++ producers.after target.name)

/-- Enter the calls of several targets. -/
def addTargets (expander : Expander) (producers : Producers) (known : List String)
    (graph : CallGraph) : List Target → Traced Failure CallGraph
  | [] => pure graph
  | target :: rest => do
    let names ← callees expander producers target
    let graph := graph.set target.name (names.filter (· ∈ known))
    addTargets expander producers known graph rest

/-- The call graph of all targets. -/
def ofTargets (expander : Expander) (producers : Producers) (targets : List Target) :
    Traced Failure CallGraph :=
  addTargets expander producers (declaredNames targets) [] targets

end CallGraph

end RunOnce.Ordering
