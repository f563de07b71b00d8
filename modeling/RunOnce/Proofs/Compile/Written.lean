import RunOnce.Proofs.Compile.Literals
import RunOnce.Proofs.Compile.Precedence
import RunOnce.Proofs.Generated.Leaves

/-!
# Procedures as they are written

Whether a target compiles is decided by its skip condition and its dependencies
alone. What it compiles to can then be written down at once, without failures and
without what is reported on the way: a procedure is a function of the target, the
expander, the order of parameters and the targets that run before and after it. A
project that assembles is laid out from these procedures.
-/

namespace RunOnce.Compile

open RunOnce.Expansion
open RunOnce.Generated
open RunOnce.Journal
open RunOnce.Journal.Traced
open RunOnce.Model
open RunOnce.Ordering
open RunOnce.Text

/-! ## Bodies -/

/-- Statements under a condition, if there is one. -/
def underCondition (expander : Expander) (condition : Option String)
    (statements : List Statement) : List Statement :=
  match effective condition with
  | none => statements
  | some raw =>
    [.comment (" if (" ++ raw ++ ")"), .guarded (valueOrRaw expander raw) statements]

/-- What is written for an assignment. -/
def writtenAssignment (expander : Expander) (assignment : Assignment) : List Statement :=
  underCondition expander assignment.condition
    [.comment (assignmentText assignment.name assignment.value),
      .assign assignment.name (valueOrRaw expander assignment.value)]

/-- What is written for a task. -/
def writtenTask (expander : Expander) (order : ParameterOrder) (task : Task) : List Statement :=
  let parameters : Parameters :=
    ⟨arrange order task.parameters, withValues expander (arrange order task.parameters)⟩
  (if parameters.differs then [.comment (invocationText task.name parameters.raw)] else []) ++
    underCondition expander task.condition [.invoke task.name parameters.expanded]

/-- What is written for an element of a target's body. -/
def writtenChild (expander : Expander) (order : ParameterOrder) : Child → List Statement
  | .group group =>
    underCondition expander group.condition
      (group.assignments.flatMap (writtenAssignment expander))
  | .task task => writtenTask expander order task

section

variable {ε : Type}

theorem outcome_conditioned {expander : Expander} {condition : Option String}
    {body : Traced ε (List Statement)} {statements : List Statement}
    (written : body.outcome = .ok statements) :
    (conditioned expander condition body).outcome =
      .ok (underCondition expander condition statements) := by
  unfold conditioned underCondition
  cases effective condition with
  | none => exact written
  | some raw =>
    rw [outcome_bind_of_ok (outcome_expandOrRaw expander raw), outcome_bind_of_ok written,
      outcome_pure]

theorem outcome_assignmentStatements (expander : Expander) (assignment : Assignment) :
    (assignmentStatements expander assignment : Traced ε _).outcome =
      .ok (writtenAssignment expander assignment) := by
  apply outcome_conditioned
  rw [outcome_bind_of_ok (outcome_expandOrRaw expander _), outcome_pure]

/-- Where each of two parts is written, both are. -/
theorem outcome_append {first second : Traced ε (List Statement)} {front back : List Statement}
    (writtenFirst : first.outcome = .ok front) (writtenSecond : second.outcome = .ok back) :
    (do
      let front ← first
      let back ← second
      pure (front ++ back)).outcome = .ok (front ++ back) := by
  rw [outcome_bind_of_ok writtenFirst, outcome_bind_of_ok writtenSecond, outcome_pure]

theorem outcome_assignmentsStatements (expander : Expander) (assignments : List Assignment) :
    (assignmentsStatements expander assignments : Traced ε _).outcome =
      .ok (assignments.flatMap (writtenAssignment expander)) := by
  induction assignments with
  | nil => rfl
  | cons assignment rest ih =>
    exact outcome_append (outcome_assignmentStatements expander assignment) ih

theorem outcome_ofTask (expander : Expander) (order : ParameterOrder) (task : Task) :
    (Parameters.ofTask expander order task : Traced ε _).outcome =
      .ok ⟨arrange order task.parameters, withValues expander (arrange order task.parameters)⟩ :=
  outcome_bind_of_ok (outcome_expandParameters expander (arrange order task.parameters))

theorem outcome_taskStatements (expander : Expander) (order : ParameterOrder) (task : Task) :
    (taskStatements expander order task : Traced ε _).outcome =
      .ok (writtenTask expander order task) := by
  have call : (conditioned expander task.condition
      (pure [.invoke task.name (withValues expander (arrange order task.parameters))]) :
        Traced ε _).outcome = .ok _ :=
    outcome_conditioned (outcome_pure _)
  rw [taskStatements, outcome_bind_of_ok (outcome_ofTask expander order task),
    outcome_bind_of_ok call, outcome_pure]
  rfl

/-- The body of a target is written element by element. -/
theorem outcome_bodyStatements (expander : Expander) (order : ParameterOrder)
    (children : List Child) :
    (bodyStatements expander order children : Traced ε _).outcome =
      .ok (children.flatMap (writtenChild expander order)) := by
  induction children with
  | nil => rfl
  | cons child rest ih =>
    refine outcome_append ?_ ih
    cases child with
    | group group =>
      exact outcome_conditioned (outcome_assignmentsStatements expander group.assignments)
    | task task => exact outcome_taskStatements expander order task

end

/-! ## Procedures -/

/-- Whether the texts that decide what a target calls are blank or expand. -/
def Compiles (expander : Expander) (target : Target) : Prop :=
  ConditionExpands expander target ∧ Expands expander .dependsOn target

/-- What is written for the skip condition of a target. -/
def writtenSkip (expander : Expander) (target : Target) : List Statement :=
  match effective target.condition with
  | none => []
  | some raw =>
    [.remark ("if (" ++ raw ++ ")"), .skipWhen (valueOrRaw expander raw) target.name]

/-- The procedure of a target. -/
def written (context : Context) (target : Target) : Procedure :=
  ⟨target.name,
    writtenSkip context.expander target ++
    callSection "DependsOnTargets" (listed context.expander .dependsOn target) ++
    callSection "BeforeTargets" (context.producers.before target.name) ++
    [.blank] ++
    target.children.flatMap (writtenChild context.expander context.parameterOrder) ++
    (if target.tasks.isEmpty then [] else [.blank]) ++
    callSection "AfterTargets" (context.producers.after target.name) ++
    [.markRun target.name]⟩

theorem conditionExpands_iff {expander : Expander} {target : Target} :
    ConditionExpands expander target ↔
      ∀ raw, effective target.condition = some raw → ∃ test, expander raw = .ok test := by
  simp only [ConditionExpands, effective, Option.filter_eq_some_iff, and_imp]

theorem skipStatements_eq_ok_iff {expander : Expander} {target : Target}
    {statements : List Statement} :
    (skipStatements expander target).outcome = .ok statements ↔
      ConditionExpands expander target ∧ statements = writtenSkip expander target := by
  rw [conditionExpands_iff]
  unfold skipStatements writtenSkip
  cases effective target.condition with
  | none => simp [eq_comm]
  | some raw => cases expanded : expander raw <;> simp [expanded, valueOrRaw, eq_comm]

/-- A target compiles exactly when its texts expand, and then to the procedure that
is written for it. -/
theorem procedure_eq_ok_iff {context : Context} {target : Target} {result : Procedure} :
    (procedure context target).outcome = .ok result ↔
      Compiles context.expander target ∧ result = written context target := by
  have body := @outcome_bodyStatements Failure context.expander context.parameterOrder
    target.children
  unfold procedure Compiles
  constructor
  · intro compiled
    obtain ⟨skip, compiledSkip, compiled⟩ := outcome_bind_eq_ok_iff.mp compiled
    obtain ⟨depends, read, compiled⟩ := outcome_bind_eq_ok_iff.mp compiled
    obtain ⟨conditionExpands, rfl⟩ := skipStatements_eq_ok_iff.mp compiledSkip
    obtain ⟨expands, rfl⟩ := dependencies_eq_ok_iff.mp read
    rw [outcome_bind_of_ok body] at compiled
    cases compiled
    exact ⟨⟨conditionExpands, expands⟩, rfl⟩
  · rintro ⟨⟨conditionExpands, expands⟩, rfl⟩
    rw [outcome_bind_of_ok (skipStatements_eq_ok_iff.mpr ⟨conditionExpands, rfl⟩),
      outcome_bind_of_ok (dependencies_eq_ok_iff.mpr ⟨expands, rfl⟩), outcome_bind_of_ok body]
    rfl

/-- Whether a statement belongs to the frame of a procedure, and not to what the body of its
target says. -/
def isFrame : Statement → Bool
  | .blank | .remark _ | .skipWhen _ _ | .callOnce _ | .markRun _ => true
  | .comment _ | .assign _ _ | .invoke _ _ | .guarded _ _ => false

/-- The leaves of a procedure are those of its target's body, with a frame around them. -/
theorem exists_leaves_written (context : Context) (target : Target) :
    ∃ before after, leavesOfAll (written context target).body =
        before ++ leavesOfAll (target.children.flatMap
          (writtenChild context.expander context.parameterOrder)) ++ after ∧
      ∀ leaf ∈ before ++ after, isFrame leaf.statement = true := by
  have skip : ∀ leaf ∈ leavesOfAll (writtenSkip context.expander target),
      isFrame leaf.statement = true := by
    unfold writtenSkip
    split <;> simp [leavesOfAll, leavesOf, isFrame]
  have calls (title : String) (names : List String) :
      ∀ leaf ∈ leavesOfAll (callSection title names), isFrame leaf.statement = true := by
    unfold callSection
    split <;> simp [leavesOfAll, leavesOf, leavesOfAll_map_callOnce, isFrame]
  have space : ∀ leaf ∈ leavesOfAll [.blank], isFrame leaf.statement = true := by
    simp [leavesOfAll, leavesOf, isFrame]
  have gap : ∀ leaf ∈ leavesOfAll (if target.tasks.isEmpty then [] else [.blank]),
      isFrame leaf.statement = true := by
    split
    · exact List.forall_mem_nil _
    · exact space
  have mark : ∀ leaf ∈ leavesOfAll [.markRun target.name], isFrame leaf.statement = true := by
    simp [leavesOfAll, leavesOf, isFrame]
  refine ⟨leavesOfAll (writtenSkip context.expander target ++
    callSection "DependsOnTargets" (listed context.expander .dependsOn target) ++
    callSection "BeforeTargets" (context.producers.before target.name) ++ [.blank]),
    leavesOfAll ((if target.tasks.isEmpty then [] else [.blank]) ++
    callSection "AfterTargets" (context.producers.after target.name) ++
    [.markRun target.name]), ?_, ?_⟩
  · simp only [written, leavesOfAll_append, List.append_assoc]
  · simp only [leavesOfAll_append, List.forall_mem_append]
    exact ⟨⟨⟨⟨skip, calls _ _⟩, calls _ _⟩, space⟩, ⟨gap, calls _ _⟩, mark⟩

/-- Targets compile exactly when each of them does, and then to what is written for
them. -/
theorem procedures_eq_ok_iff_written {context : Context} {targets : List Target}
    {results : List Procedure} :
    (procedures context targets).outcome = .ok results ↔
      (∀ target ∈ targets, Compiles context.expander target) ∧
        results = targets.map (written context) := by
  rw [procedures_eq_ok_iff]
  simp only [procedure_eq_ok_iff]
  induction targets generalizing results with
  | nil => simp
  | cons target rest ih =>
    rw [List.forall₂_cons_left_iff]
    simp only [ih, List.forall_mem_cons, List.map_cons]
    constructor
    · rintro ⟨_, _, ⟨compiles, rfl⟩, ⟨restCompiles, rfl⟩, rfl⟩
      exact ⟨⟨compiles, restCompiles⟩, rfl⟩
    · rintro ⟨⟨compiles, restCompiles⟩, rfl⟩
      exact ⟨_, _, ⟨compiles, rfl⟩, ⟨restCompiles, rfl⟩, rfl⟩

/-! ## Programs -/

/-- The program of a project, once its default target and its producers are
known. -/
def programOf (expander : Expander) (settings : Settings) (globals : List (String × String))
    (project : Project) (producers : Producers) (entry : String) : Program where
  flags := declaredNames project.targets
  initializers := initializers project globals
  records := if settings.emitItemSchemas then project.itemSchemas else []
  procedures := project.targets.map (written ⟨expander, producers, settings.parameterOrder⟩)
  entry := entry

/-- A program with its text. -/
def laidOut (settings : Settings) (program : Program) : Compiled where
  program := program
  text := program.text settings.indentSize
  targets := program.flags
  defaultTarget := program.entry

section

variable {expander : Expander} {settings : Settings} {globals : List (String × String)}
  {project : Project}

/-- A project assembles exactly when its default target is found, its producers are
collected, no cycle is found that is looked for, and all targets compile. -/
theorem assemble_eq_ok_iff {compiled : Compiled} :
    (assemble expander settings globals project).outcome = .ok compiled ↔
      ∃ entry producers,
        (resolveDefaultTarget project expander settings globals).outcome = .ok entry ∧
        (Producers.ofTargets expander project.targets).outcome = .ok producers ∧
        (checkIfAsked settings expander producers project.targets).outcome = .ok () ∧
        (∀ target ∈ project.targets, Compiles expander target) ∧
        compiled = laidOut settings
          (programOf expander settings globals project producers entry) := by
  rw [assemble, assembleProgram_eq]
  constructor
  · intro assembled
    obtain ⟨program, laid, result⟩ := outcome_bind_eq_ok_iff.mp assembled
    cases result
    obtain ⟨entry, resolved, laid⟩ := outcome_bind_eq_ok_iff.mp laid
    obtain ⟨producers, built, laid⟩ := outcome_bind_eq_ok_iff.mp laid
    obtain ⟨_, checked, laid⟩ := outcome_bind_eq_ok_iff.mp laid
    obtain ⟨procedures, compiled, laid⟩ := outcome_bind_eq_ok_iff.mp laid
    cases laid
    obtain ⟨compiles, rfl⟩ := procedures_eq_ok_iff_written.mp compiled
    exact ⟨entry, producers, resolved, built, checked, compiles, rfl⟩
  · rintro ⟨entry, producers, resolved, built, checked, compiles, rfl⟩
    have compiled : (procedures ⟨expander, producers, settings.parameterOrder⟩
        project.targets).outcome = .ok _ :=
      procedures_eq_ok_iff_written.mpr ⟨compiles, rfl⟩
    refine outcome_bind_eq_ok_iff.mpr
      ⟨programOf expander settings globals project producers entry, ?_, rfl⟩
    rw [outcome_bind_of_ok resolved, outcome_bind_of_ok built, outcome_bind_of_ok checked,
      outcome_bind_of_ok compiled]
    rfl

/-- A project that does not assemble fails over its default target, its producers, a
cycle, or the first target that does not compile. -/
theorem assemble_eq_error_iff {failure : Failure} :
    (assemble expander settings globals project).outcome = .error failure ↔
      (resolveDefaultTarget project expander settings globals).outcome = .error failure ∨
      ∃ entry, (resolveDefaultTarget project expander settings globals).outcome = .ok entry ∧
        ((Producers.ofTargets expander project.targets).outcome = .error failure ∨
        ∃ producers, (Producers.ofTargets expander project.targets).outcome = .ok producers ∧
          ((checkIfAsked settings expander producers project.targets).outcome = .error failure ∨
          ∃ done, (checkIfAsked settings expander producers project.targets).outcome = .ok done ∧
            (project.targets.flatMap (targetFailures expander)).head? = some failure)) := by
  rw [assemble, assembleProgram_eq]
  simp only [outcome_bind_eq_error_iff, outcome_pure, outcome_report, reduceCtorEq, and_false,
    exists_false, or_false, failsInOrder_procedures _ project.targets failure]

end

/-! ## Two runs -/

/-- Whether all that assembling a project depends on comes out alike under other
expanders, settings and global properties. -/
structure StagesAgree (expander other : Expander) (settings otherSettings : Settings)
    (globals otherGlobals : List (String × String)) (project : Project) : Prop where
  entry : (resolveDefaultTarget project other otherSettings otherGlobals).outcome =
    (resolveDefaultTarget project expander settings globals).outcome
  producers : (Producers.ofTargets other project.targets).outcome =
    (Producers.ofTargets expander project.targets).outcome
  checks (producers : Producers) :
    (checkIfAsked otherSettings other producers project.targets).outcome =
      (checkIfAsked settings expander producers project.targets).outcome
  targets {target : Target} (declared : target ∈ project.targets) :
    targetFailures other target = targetFailures expander target

namespace StagesAgree

variable {expander other : Expander} {settings otherSettings : Settings}
  {globals otherGlobals : List (String × String)} {project : Project}

/-- If one run fails, the other fails alike. -/
theorem error_iff
    (agree : StagesAgree expander other settings otherSettings globals otherGlobals project)
    (failure : Failure) :
    (assemble other otherSettings otherGlobals project).outcome = .error failure ↔
      (assemble expander settings globals project).outcome = .error failure := by
  have targets : project.targets.flatMap (targetFailures other) =
      project.targets.flatMap (targetFailures expander) :=
    List.flatMap_congr fun _ declared => agree.targets declared
  simp only [assemble_eq_error_iff, agree.entry, agree.producers, agree.checks, targets]

/-- If one run gives a program, the other gives a program with the same producers and
the same default target. -/
theorem exists_programs
    (agree : StagesAgree expander other settings otherSettings globals otherGlobals project)
    {compiled : Compiled}
    (assembled : (assemble expander settings globals project).outcome = .ok compiled) :
    ∃ producers entry,
      compiled = laidOut settings
        (programOf expander settings globals project producers entry) ∧
      (assemble other otherSettings otherGlobals project).outcome = .ok (laidOut otherSettings
        (programOf other otherSettings otherGlobals project producers entry)) := by
  obtain ⟨entry, producers, resolved, built, checked, compiles, rfl⟩ :=
    assemble_eq_ok_iff.mp assembled
  refine ⟨producers, entry, rfl, assemble_eq_ok_iff.mpr ⟨entry, producers, ?_, ?_, ?_, ?_, rfl⟩⟩
  · rw [agree.entry, resolved]
  · rw [agree.producers, built]
  · rw [agree.checks, checked]
  · intro target declared
    rw [Compiles, ← targetFailures_eq_nil_iff, agree.targets declared]
    exact targetFailures_eq_nil_iff.mpr (compiles target declared)

end StagesAgree

end RunOnce.Compile
