import RunOnce.Proofs.Compile.Written

/-!
# Who can write a flag

The flag of a target is called like the target, with a suffix. Flags of different targets
are different, but their names are not kept apart from the names of targets, properties
and assignments: any of these may happen to be called like a flag. This file finds every
write of a program, and shows that the flag of a target is written by its own procedure
only, exactly unless an assignment in some target's body has its name.
-/

namespace RunOnce.Compile

open RunOnce.Document
open RunOnce.Expansion
open RunOnce.Generated
open RunOnce.Journal
open RunOnce.Model
open RunOnce.Ordering
open RunOnce.Text

/-! ## Writes -/

/-- What writes a cell of a program. -/
inductive Write
  /-- The flag of a target is set. -/
  | flag (target : String)
  /-- A property gets a value. -/
  | property (name : String)
deriving DecidableEq, Repr

/-- The name of the cell that is written. -/
def Write.cell : Write → String
  | flag target => runFlag target
  | property name => name

mutual

/-- The writes in a statement, in order. -/
def writesIn : Statement → List Write
  | .skipWhen _ target => [.flag target]
  | .markRun target => [.flag target]
  | .assign name _ => [.property name]
  | .guarded _ body => writesInAll body
  | .blank | .remark _ | .comment _ | .callOnce _ | .invoke _ _ => []

/-- The writes in a sequence of statements, in order. -/
def writesInAll : List Statement → List Write
  | [] => []
  | statement :: rest => writesIn statement ++ writesInAll rest

end

theorem writesInAll_append (first second : List Statement) :
    writesInAll (first ++ second) = writesInAll first ++ writesInAll second := by
  induction first with
  | nil => rfl
  | cons statement rest ih => simp [writesInAll, ih]

theorem writesInAll_callSection (title : String) (names : List String) :
    writesInAll (callSection title names) = [] := by
  have calls : writesInAll (names.map .callOnce) = [] := by
    induction names with
    | nil => rfl
    | cons name rest ih => simpa [writesInAll, writesIn] using ih
  unfold callSection
  split
  · rfl
  · exact calls

/-! ## Writes of a procedure -/

/-- The properties that the body of a target assigns to. -/
def assignedNames (target : Target) : List String :=
  target.propertyGroups.flatMap fun group => group.assignments.map Assignment.name

section

variable {expander : Expander}

/-- A condition adds no writes. -/
theorem writesInAll_underCondition (condition : Option String) (statements : List Statement) :
    writesInAll (underCondition expander condition statements) = writesInAll statements := by
  unfold underCondition
  cases effective condition with
  | none => rfl
  | some raw => simp [writesInAll, writesIn]

theorem writesInAll_writtenAssignments (assignments : List Assignment) :
    writesInAll (assignments.flatMap (writtenAssignment expander)) =
      assignments.map fun assignment => .property assignment.name := by
  induction assignments with
  | nil => rfl
  | cons assignment rest ih =>
    rw [List.flatMap_cons, writesInAll_append, ih, writtenAssignment,
      writesInAll_underCondition]
    rfl

theorem writesInAll_writtenTask (order : ParameterOrder) (task : Task) :
    writesInAll (writtenTask expander order task) = [] := by
  unfold writtenTask
  rw [writesInAll_append, writesInAll_underCondition]
  split <;> rfl

/-- The body of a target writes the properties that it assigns to. -/
theorem writesInAll_writtenChildren (order : ParameterOrder) (target : Target) :
    writesInAll (target.children.flatMap (writtenChild expander order)) =
      (assignedNames target).map .property := by
  unfold assignedNames Target.propertyGroups
  induction target.children with
  | nil => rfl
  | cons child rest ih =>
    rw [List.flatMap_cons, writesInAll_append, ih]
    cases child with
    | group group =>
      simp [writtenChild, writesInAll_underCondition, writesInAll_writtenAssignments,
        Child.group?]
    | task task =>
      simp [writtenChild, writesInAll_writtenTask, List.filterMap_cons, Child.group?]

end

/-- A procedure writes its own flag and the properties that its target assigns to. -/
theorem mem_writesInAll_written {context : Context} {target : Target} {write : Write} :
    write ∈ writesInAll (written context target).body ↔
      write = .flag target.name ∨ ∃ name ∈ assignedNames target, write = .property name := by
  have skip : writesInAll (writtenSkip context.expander target) ⊆ [.flag target.name] := by
    unfold writtenSkip
    split <;> simp [writesInAll, writesIn]
  have blank : writesInAll (if target.tasks.isEmpty then [] else [.blank]) = [] := by
    split <;> rfl
  have space : writesInAll [.blank] = [] := rfl
  have mark : writesInAll [.markRun target.name] = [.flag target.name] := rfl
  simp only [written, writesInAll_append, writesInAll_callSection,
    writesInAll_writtenChildren, blank, space, mark, List.append_nil, List.mem_append,
    List.mem_map, List.mem_singleton, @eq_comm _ _ write]
  constructor
  · rintro ((skips | assigns) | marks)
    · exact .inl (List.mem_singleton.mp (skip skips))
    · exact .inr assigns
    · exact .inl marks
  · rintro (marks | assigns)
    · exact .inr marks
    · exact .inl (.inr assigns)

/-! ## Names of flags -/

theorem runFlag_injective : Function.Injective runFlag := by
  intro first second same
  simpa [runFlag] using same

/-- Whether the flag of a target is a cell of its own: no other target has a flag of its
name, no procedure and no initialized property has its name, and only the target's own
procedure writes it, as its flag. -/
structure PrivateFlag (program : Program) (target : String) : Prop where
  flags : (program.flags.map runFlag).count (runFlag target) = 1
  procedures : runFlag target ∉ program.procedures.map Procedure.target
  properties : runFlag target ∉ program.initializers.map Prod.fst
  writes : ∀ procedure ∈ program.procedures, ∀ write ∈ writesInAll procedure.body,
    write.cell = runFlag target → procedure.target = target ∧ write = .flag target

section

variable {expander : Expander} {settings : Settings} {globals : List (String × String)}
  {project : Project} {compiled : Compiled} {target : Target}

/-- The procedures of a program are written for the targets of its project. -/
theorem exists_procedures_eq_map_written
    (assembled : (assemble expander settings globals project).outcome = .ok compiled) :
    ∃ context, compiled.program.procedures = project.targets.map (written context) := by
  obtain ⟨_, _, _, _, _, _, rfl⟩ := assemble_eq_ok_iff.mp assembled
  exact ⟨_, rfl⟩

theorem flags_assemble
    (assembled : (assemble expander settings globals project).outcome = .ok compiled) :
    compiled.program.flags = declaredNames project.targets := by
  obtain ⟨_, _, _, _, _, _, rfl⟩ := assemble_eq_ok_iff.mp assembled
  rfl

theorem procedureNames_assemble
    (assembled : (assemble expander settings globals project).outcome = .ok compiled) :
    compiled.program.procedures.map Procedure.target = declaredNames project.targets := by
  obtain ⟨context, written⟩ := exists_procedures_eq_map_written assembled
  rw [written, List.map_map]
  rfl

theorem initializedNames_assemble
    (assembled : (assemble expander settings globals project).outcome = .ok compiled) :
    compiled.program.initializers.map Prod.fst =
      project.emittedProperties.map Property.name := by
  rw [(declarations_assemble assembled).1, initializers, List.map_map]
  rfl

/-- An assignment in the body of a target is written in its procedure. -/
theorem exists_procedure_of_assigned
    (assembled : (assemble expander settings globals project).outcome = .ok compiled)
    (declared : target ∈ project.targets) {name : String} (assigned : name ∈ assignedNames target) :
    ∃ procedure ∈ compiled.program.procedures, procedure.target = target.name ∧
      .property name ∈ writesInAll procedure.body := by
  obtain ⟨context, procedures⟩ := exists_procedures_eq_map_written assembled
  refine ⟨written context target, ?_, rfl, ?_⟩
  · rw [procedures]
    exact List.mem_map_of_mem declared
  · exact mem_writesInAll_written.mpr (.inr ⟨name, assigned, rfl⟩)

/-- A cell that is called like a flag is written by the procedure of the flag's target, as
its flag, or by an assignment of that name. -/
theorem flag_or_assignment_of_cell_eq
    (assembled : (assemble expander settings globals project).outcome = .ok compiled)
    {procedure : Procedure} (emitted : procedure ∈ compiled.program.procedures) {write : Write}
    (writes : write ∈ writesInAll procedure.body) {name : String}
    (same : write.cell = runFlag name) :
    procedure.target = name ∧ write = .flag name ∨
      write = .property (runFlag name) ∧ ∃ other ∈ project.targets,
        other.name = procedure.target ∧ runFlag name ∈ assignedNames other := by
  obtain ⟨context, procedures⟩ := exists_procedures_eq_map_written assembled
  rw [procedures] at emitted
  obtain ⟨other, declared, rfl⟩ := List.mem_map.mp emitted
  rcases mem_writesInAll_written.mp writes with rfl | ⟨assigned, assigns, rfl⟩
  · cases runFlag_injective same
    exact .inl ⟨rfl, rfl⟩
  · cases same
    exact .inr ⟨rfl, other, declared, rfl, assigns⟩

/-- The flags of a program are all different. A write to the cell that is called like a
target's flag is made by this target's own procedure, as its flag, or it is an assignment
of that name in the body of some target. So the flag is private exactly if no target, no
initialized property and no assignment in a body is called like it. -/
theorem flag_is_private_unless_named_again (validated : project.Validated)
    (assembled : (assemble expander settings globals project).outcome = .ok compiled)
    (declared : target ∈ project.targets) :
    (compiled.program.flags.map runFlag).Nodup ∧
    (∀ procedure ∈ compiled.program.procedures, ∀ write ∈ writesInAll procedure.body,
      write.cell = runFlag target.name →
        procedure.target = target.name ∧ write = .flag target.name ∨
          write = .property (runFlag target.name) ∧ ∃ other ∈ project.targets,
            other.name = procedure.target ∧ runFlag target.name ∈ assignedNames other) ∧
    (PrivateFlag compiled.program target.name ↔
      runFlag target.name ∉ declaredNames project.targets ∧
      runFlag target.name ∉ project.emittedProperties.map Property.name ∧
      ∀ other ∈ project.targets, runFlag target.name ∉ assignedNames other) := by
  have distinct : (compiled.program.flags.map runFlag).Nodup := by
    rw [flags_assemble assembled]
    exact validated.nodup_declaredNames.map runFlag_injective
  refine ⟨distinct, fun procedure emitted write writes =>
    flag_or_assignment_of_cell_eq assembled emitted writes, ?_⟩
  rw [← procedureNames_assemble assembled, ← initializedNames_assemble assembled]
  constructor
  · intro isPrivate
    refine ⟨isPrivate.procedures, isPrivate.properties, ?_⟩
    intro other otherDeclared assigned
    obtain ⟨procedure, emitted, _, writes⟩ :=
      exists_procedure_of_assigned assembled otherDeclared assigned
    -- The assignment writes the cell, but not as a flag.
    obtain ⟨_, same⟩ := isPrivate.writes procedure emitted _ writes rfl
    cases same
  · rintro ⟨noTarget, noProperty, noAssignment⟩
    refine ⟨?_, noTarget, noProperty, ?_⟩
    · apply List.count_eq_one_of_mem distinct
      rw [flags_assemble assembled]
      exact List.mem_map_of_mem (List.mem_map_of_mem declared)
    · intro procedure emitted write writes same
      rcases flag_or_assignment_of_cell_eq assembled emitted writes same with
        own | ⟨_, other, listed, _, assigned⟩
      · exact own
      · exact absurd assigned (noAssignment other listed)

end

/-- A project in which the flag of a target is called like another target, like a property
and like an assignment. -/
def flaggedProject : Project where
  properties := [
    { name := "BuildRun", expandedValue := "no" },
    { name := "MSBuildProjectDefaultTargets", expandedValue := "Build", isReserved := true }]
  targets := [
    { name := "Build" },
    { name := "BuildRun",
      children := [.group { assignments := [{ name := "BuildRun", value := "yes" }] }] }]

/-- A document that is read as the project. -/
def flaggedDocument : Value :=
  .mapping [
    (.text "properties", .list [
      .mapping [(.text "name", .text "BuildRun"), (.text "expanded_value", .text "no")],
      .mapping [(.text "name", .text "MSBuildProjectDefaultTargets"),
        (.text "expanded_value", .text "Build"), (.text "is_reserved", .bool true)]]),
    (.text "targets", .list [
      .mapping [(.text "name", .text "Build")],
      .mapping [(.text "name", .text "BuildRun"),
        (.text "children", .list [.mapping [
          (.text "kind", .text "property_group"),
          (.text "properties", .list [.mapping [
            (.text "name", .text "BuildRun"), (.text "value", .text "yes")]])]])]])]

theorem exists_compile_flaggedProject :
    ∃ compiled, (compile {} [] flaggedProject).outcome = .ok compiled :=
  exists_eq_ok_of_isOk (by decide +kernel)

/-- The flag of the second target has a name that nothing else has. -/
theorem flaggedProject_private_flag :
    Project.read flaggedDocument = .valid flaggedProject ∧
    ∃ compiled, (compile {} [] flaggedProject).outcome = .ok compiled ∧
      PrivateFlag compiled.program "BuildRun" := by
  have read : Project.read flaggedDocument = .valid flaggedProject := by rfl
  obtain ⟨compiled, assembled⟩ := exists_compile_flaggedProject
  have declared : flaggedProject.targets[1] ∈ flaggedProject.targets := List.getElem_mem _
  obtain ⟨_, _, isPrivate⟩ :=
    flag_is_private_unless_named_again ⟨flaggedDocument, read⟩ assembled declared
  exact ⟨read, compiled, assembled, isPrivate.mpr (by decide)⟩

/-- The flag of the first target is the name of a procedure, it is the name of an
initialized property, and the second target assigns to it. -/
theorem flaggedProject_shared_flag :
    Project.read flaggedDocument = .valid flaggedProject ∧
    ∃ compiled, (compile {} [] flaggedProject).outcome = .ok compiled ∧
      "Build" ∈ compiled.program.flags ∧
      runFlag "Build" ∈ compiled.program.procedures.map Procedure.target ∧
      runFlag "Build" ∈ compiled.program.initializers.map Prod.fst ∧
      (∃ procedure ∈ compiled.program.procedures, procedure.target = "BuildRun" ∧
        .property (runFlag "Build") ∈ writesInAll procedure.body) ∧
      ¬PrivateFlag compiled.program "Build" := by
  obtain ⟨compiled, assembled⟩ := exists_compile_flaggedProject
  have flagged : "Build" ∈ compiled.program.flags := by
    rw [flags_assemble assembled]
    decide
  have procedure : runFlag "Build" ∈ compiled.program.procedures.map Procedure.target := by
    rw [procedureNames_assemble assembled]
    decide
  have initializer : runFlag "Build" ∈ compiled.program.initializers.map Prod.fst := by
    rw [initializedNames_assemble assembled]
    decide
  have declared : flaggedProject.targets[1] ∈ flaggedProject.targets := List.getElem_mem _
  exact ⟨by rfl, compiled, assembled, flagged, procedure, initializer,
    exists_procedure_of_assigned assembled declared (by decide),
    fun isPrivate => isPrivate.procedures procedure⟩

end RunOnce.Compile
