import RunOnce.Compile.Parameters
import RunOnce.Generated.Basic
import RunOnce.Ordering.CallGraph

/-!
# The procedure of a target

A target becomes a procedure that runs at most once. It first returns if its
skip condition holds; then it calls the targets it depends on and those that
asked to run before it; then comes its body; then it calls the targets that
asked to run after it; and in the end it marks itself as run.

A skip condition and the list of dependencies decide which calls are made, so
they have to expand. All other values fall back to their raw text.
-/

namespace RunOnce.Compile

open RunOnce.Expansion
open RunOnce.Generated
open RunOnce.Journal
open RunOnce.Model
open RunOnce.Ordering
open RunOnce.Text

/-- What a target is compiled with. -/
structure Context where
  expander : Expander
  producers : Producers
  parameterOrder : ParameterOrder := .sorted

/-- A condition that says something. -/
def effective (condition : Option String) : Option String :=
  condition.filter hasText

/-- Statements under a condition, which is shown raw in a comment. -/
def conditioned {ε : Type} (expander : Expander) (condition : Option String)
    (body : Traced ε (List Statement)) : Traced ε (List Statement) :=
  match effective condition with
  | none => body
  | some raw => do
    let test ← expandOrRaw expander raw
    let statements ← body
    pure [.comment (" if (" ++ raw ++ ")"), .guarded test statements]

/-- The statements of an assignment. -/
def assignmentStatements {ε : Type} (expander : Expander) (assignment : Assignment) :
    Traced ε (List Statement) :=
  conditioned expander assignment.condition do
    let value ← expandOrRaw expander assignment.value
    pure [.comment (assignmentText assignment.name assignment.value),
      .assign assignment.name value]

/-- The statements of several assignments. -/
def assignmentsStatements {ε : Type} (expander : Expander) :
    List Assignment → Traced ε (List Statement)
  | [] => pure []
  | assignment :: rest => do
    let first ← assignmentStatements expander assignment
    let others ← assignmentsStatements expander rest
    pure (first ++ others)

/-- The statements of a property group. -/
def groupStatements {ε : Type} (expander : Expander) (group : PropertyGroup) :
    Traced ε (List Statement) :=
  conditioned expander group.condition (assignmentsStatements expander group.assignments)

/-- The statements of a task. -/
def taskStatements {ε : Type} (expander : Expander) (order : ParameterOrder) (task : Task) :
    Traced ε (List Statement) := do
  let parameters ← Parameters.ofTask expander order task
  let shown : List Statement :=
    if parameters.differs then [.comment (invocationText task.name parameters.raw)] else []
  let call ← conditioned expander task.condition
    (pure [.invoke task.name parameters.expanded])
  pure (shown ++ call)

/-- The statements of an element of a target's body. -/
def childStatements {ε : Type} (expander : Expander) (order : ParameterOrder) :
    Child → Traced ε (List Statement)
  | .group group => groupStatements expander group
  | .task task => taskStatements expander order task

/-- The statements of a target's body. -/
def bodyStatements {ε : Type} (expander : Expander) (order : ParameterOrder) :
    List Child → Traced ε (List Statement)
  | [] => pure []
  | child :: rest => do
    let first ← childStatements expander order child
    let others ← bodyStatements expander order rest
    pure (first ++ others)

/-- The calls of one section, under the section's name. -/
def callSection (title : String) (names : List String) : List Statement :=
  if names.isEmpty then [] else .remark (title ++ ";") :: names.map .callOnce

/-- The statements of a target's skip condition. -/
def skipStatements (expander : Expander) (target : Target) : Traced Failure (List Statement) :=
  match effective target.condition with
  | none => pure []
  | some raw =>
    match expander raw with
    | .ok test => pure [.remark ("if (" ++ raw ++ ")"), .skipWhen test target.name]
    | .error reason => (Failure.controlFlow target.name "condition" raw reason.text).throw

/-- The procedure of a target. -/
def procedure (context : Context) (target : Target) : Traced Failure Procedure := do
  let skip ← skipStatements context.expander target
  let depends ← dependencies context.expander target
  let body ← bodyStatements context.expander context.parameterOrder target.children
  Traced.report (.targetCompiled target.name target.children.length)
  pure ⟨target.name,
    skip ++
    callSection "DependsOnTargets" depends ++
    callSection "BeforeTargets" (context.producers.before target.name) ++
    [.blank] ++
    body ++
    (if target.tasks.isEmpty then [] else [.blank]) ++
    callSection "AfterTargets" (context.producers.after target.name) ++
    [.markRun target.name]⟩

/-- The procedures of several targets, in order; the first target that fails
decides the failure. -/
def procedures (context : Context) : List Target → Traced Failure (List Procedure)
  | [] => pure []
  | target :: rest => do
    let first ← procedure context target
    let others ← procedures context rest
    pure (first :: others)

end RunOnce.Compile
