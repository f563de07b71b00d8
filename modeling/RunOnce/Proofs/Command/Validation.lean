import Mathlib.Data.List.Permutation
import RunOnce.Command.ValidateCommand
import RunOnce.Proofs.Compile.Precedence

/-!
# What validation says about compilation

Validating a project goes through the same checks as compiling it, in the same
order, and stops before any target is compiled. So it finds what would go wrong
there, except for a skip condition that does not expand: nothing looks at these
before the targets are compiled.
-/

namespace RunOnce

/-- Whether a failure is about a skip condition that does not expand. -/
def Failure.IsOnCondition : Failure → Prop
  | controlFlow _ field _ _ => field = "condition"
  | _ => False

end RunOnce

namespace RunOnce.Command

open RunOnce.Compile
open RunOnce.Document
open RunOnce.Expansion
open RunOnce.Journal
open RunOnce.Journal.Traced
open RunOnce.Model
open RunOnce.Ordering
open RunOnce.Text

variable {expander : Expander} {settings other : Settings} {globals : List (String × String)}
  {project : Project}

/-! ## Failures of the checks -/

/-- The failures that are met before any target is compiled, if cycles are looked
for. -/
def earlyFailures (expander : Expander) (settings : Settings)
    (globals : List (String × String)) (project : Project) : List Failure :=
  entryFailures project expander settings globals ++
    (producerFailures expander project.targets ++
      (dependencyFailures expander project.targets ++ cycleFailures expander project.targets))

theorem failsInOrder_checkProject (validated : project.Validated) :
    FailsInOrder (checkProject settings globals project)
      (earlyFailures (PropertyTable.ofProject project globals).expand settings globals
        project) := by
  apply failsInOrder_resolveDefaultTarget.bind
  intro entry _
  apply (Producers.failsInOrder_ofTargets _ project.targets).bind
  intro producers built
  exact (failsInOrder_checkAcyclic validated.nodup_declaredNames built).bind_ok fun _ => ⟨_, rfl⟩

/-- Compiling meets the failures of the checks, and then those of the targets. -/
theorem failuresInOrder_detecting (expander : Expander) (settings : Settings)
    (globals : List (String × String)) (project : Project) :
    failuresInOrder expander { settings with detectCycles := true } globals project =
      earlyFailures expander settings globals project ++
        project.targets.flatMap (targetFailures expander) := by
  simp only [failuresInOrder, earlyFailures, if_true, List.append_assoc]
  rfl

/-- Of the settings, only the property for the default target matters. -/
theorem earlyFailures_congr
    (sameProperty : other.defaultTargetProperty = settings.defaultTargetProperty) :
    earlyFailures expander other globals project =
      earlyFailures expander settings globals project := by
  simp only [earlyFailures, entryFailures, defaultTargetList, sameProperty]

/-- Once the checks pass, all ordering lists expand. -/
theorem expands_of_earlyFailures_eq_nil
    (none : earlyFailures expander settings globals project = []) (field : OrderingField) :
    ∀ target ∈ project.targets, Expands expander field target := by
  simp only [earlyFailures, List.append_eq_nil_iff, producerFailures_eq_nil_iff,
    dependencyFailures_eq_nil_iff] at none
  obtain ⟨_, producersExpand, dependenciesExpand, _⟩ := none
  intro target declared
  cases field with
  | dependsOn => exact dependenciesExpand target declared
  | before => exact (producersExpand target declared).1
  | after => exact (producersExpand target declared).2

/-! ## Failures over conditions -/

/-- The failure of an ordering list is not about a condition. -/
theorem not_isOnCondition_of_listFailure? {field : OrderingField} {target : Target}
    {failure : Failure} (failed : listFailure? expander field target = some failure) :
    ¬failure.IsOnCondition := by
  obtain ⟨_, reason, _, rfl⟩ := textFailure?_eq_some_iff.mp failed
  change field.label ≠ "condition"
  cases field <;> decide

/-- The checks do not look at conditions. -/
theorem not_isOnCondition_of_mem_earlyFailures {failure : Failure}
    (listed : failure ∈ earlyFailures expander settings globals project) :
    ¬failure.IsOnCondition := by
  simp only [earlyFailures, producerFailures, dependencyFailures, cycleFailures, List.mem_append,
    List.mem_flatMap, Option.mem_toList, Option.map_eq_some_iff] at listed
  rcases listed with entry | ⟨target, _, before | after⟩ | ⟨target, _, depends⟩ | ⟨cycle, _, rfl⟩
  · obtain ⟨source, details, rfl⟩ := noDefaultTarget_of_mem_entryFailures entry
    exact id
  · exact not_isOnCondition_of_listFailure? before
  · exact not_isOnCondition_of_listFailure? after
  · exact not_isOnCondition_of_listFailure? depends
  · exact id

/-- The failure of a condition names the target and the text. -/
theorem conditionFailure?_eq_some_iff {target : Target} {failure : Failure} :
    conditionFailure? expander target = some failure ↔
      ∃ raw reason, target.condition = some raw ∧ hasText raw = true ∧
        expander raw = .error reason ∧
        failure = .controlFlow target.name "condition" raw reason.text := by
  simp only [conditionFailure?, Option.bind_eq_some_iff, textFailure?_eq_some_iff]
  constructor
  · rintro ⟨raw, present, text, reason, failed, rfl⟩
    exact ⟨raw, reason, present, text, failed, rfl⟩
  · rintro ⟨raw, reason, present, text, failed, rfl⟩
    exact ⟨raw, present, text, reason, failed, rfl⟩

/-- Once the dependencies of all targets expand, only conditions are left to fail. -/
theorem flatMap_targetFailures {targets : List Target}
    (expand : ∀ target ∈ targets, Expands expander .dependsOn target) :
    targets.flatMap (targetFailures expander) =
      targets.flatMap fun target => (conditionFailure? expander target).toList := by
  apply List.flatMap_congr
  intro target declared
  rw [targetFailures, listFailure?_eq_none_iff.mpr (expand target declared), Option.toList_none,
    List.append_nil]

/-- So the first failure of the targets is then about a condition. -/
theorem isOnCondition_of_head? {targets : List Target} {failure : Failure}
    (expand : ∀ target ∈ targets, Expands expander .dependsOn target)
    (first : (targets.flatMap (targetFailures expander)).head? = some failure) :
    failure.IsOnCondition := by
  rw [flatMap_targetFailures expand] at first
  obtain ⟨_, target, _, _, failed, _⟩ := head?_flatMap_toList.mp first
  obtain ⟨raw, reason, _, _, _, rfl⟩ := conditionFailure?_eq_some_iff.mp failed
  exact rfl

/-- Once the checks pass and all conditions expand, a project compiles, whether
cycles are looked for or not. -/
theorem exists_compile_of_checkProject {entry : String} (validated : project.Validated)
    (sameProperty : other.defaultTargetProperty = settings.defaultTargetProperty)
    (checked : (checkProject settings globals project).outcome = .ok entry)
    (conditionsExpand : ∀ target ∈ project.targets,
      ConditionExpands (PropertyTable.ofProject project globals).expand target) :
    ∃ compiled, (compile other globals project).outcome = .ok compiled := by
  have none := (failsInOrder_checkProject validated).exists_ok_iff.mp ⟨entry, checked⟩
  have dependenciesExpand := expands_of_earlyFailures_eq_nil none .dependsOn
  rw [← earlyFailures_congr sameProperty, earlyFailures] at none
  simp only [List.append_eq_nil_iff] at none
  obtain ⟨entryFound, producersExpand, dependencies, acyclic⟩ := none
  have targets : project.targets.flatMap
      (targetFailures (PropertyTable.ofProject project globals).expand) = [] := by
    apply List.flatMap_eq_nil_iff.mpr
    intro target declared
    exact targetFailures_eq_nil_iff.mpr
      ⟨conditionsExpand target declared, dependenciesExpand target declared⟩
  apply (failsInOrder_assemble validated).exists_ok_iff.mpr
  rw [failuresInOrder, entryFound, producersExpand, dependencies, acyclic, targets]
  simp

/-! ## Agreement -/

/-- A program that is compiled calls the default target that the checks found. -/
theorem defaultTarget_eq_of_checkProject {entry : String} {compiled : Compiled}
    (sameProperty : other.defaultTargetProperty = settings.defaultTargetProperty)
    (checked : (checkProject settings globals project).outcome = .ok entry)
    (assembled : (compile other globals project).outcome = .ok compiled) :
    compiled.defaultTarget = entry := by
  obtain ⟨found, resolved, checked⟩ := outcome_bind_eq_ok_iff.mp checked
  obtain ⟨_, _, checked⟩ := outcome_bind_eq_ok_iff.mp checked
  obtain ⟨_, _, result⟩ := outcome_bind_eq_ok_iff.mp checked
  cases result
  have again := resolveDefaultTarget_of_assemble assembled
  simp only [resolveDefaultTarget, defaultTargetList, sameProperty] at again resolved
  exact Except.ok.inj (again.symm.trans resolved)

/-- The checks of a project and its compilation with a search for cycles agree, for
settings with the same property for the default target. The checks fail with a
failure exactly when compiling fails with it, unless it is about a skip condition.
When they pass, either all skip conditions expand, and compiling gives a program
with the default target that the checks found; or compiling fails over the first
target whose skip condition does not expand. -/
theorem validation_agrees_with_compilation (validated : project.Validated)
    (globals : List (String × String))
    (sameProperty : other.defaultTargetProperty = settings.defaultTargetProperty) :
    (∀ failure, (checkProject settings globals project).outcome = .error failure ↔
      (compile { other with detectCycles := true } globals project).outcome = .error failure ∧
        ¬failure.IsOnCondition) ∧
    ∀ entry, (checkProject settings globals project).outcome = .ok entry →
      ((∀ target ∈ project.targets,
          ConditionExpands (PropertyTable.ofProject project globals).expand target) ∧
        ∃ compiled,
          (compile { other with detectCycles := true } globals project).outcome = .ok compiled ∧
            compiled.defaultTarget = entry) ∨
      ∃ earlier target later raw reason,
        project.targets = earlier ++ target :: later ∧
        (∀ ahead ∈ earlier,
          ConditionExpands (PropertyTable.ofProject project globals).expand ahead) ∧
        target.condition = some raw ∧ hasText raw = true ∧
        (PropertyTable.ofProject project globals).expand raw = .error reason ∧
        (compile { other with detectCycles := true } globals project).outcome =
          .error (.controlFlow target.name "condition" raw reason.text) := by
  let expander := (PropertyTable.ofProject project globals).expand
  have checks : FailsInOrder (checkProject settings globals project)
      (earlyFailures expander settings globals project) := failsInOrder_checkProject validated
  have compiles : FailsInOrder (compile { other with detectCycles := true } globals project)
      (earlyFailures expander settings globals project ++
        project.targets.flatMap (targetFailures expander)) := by
    rw [← earlyFailures_congr sameProperty, ← failuresInOrder_detecting]
    exact failsInOrder_assemble validated
  constructor
  · intro failure
    rw [checks failure, compiles failure]
    cases early : earlyFailures expander settings globals project with
    | nil =>
      simp only [List.head?_nil, reduceCtorEq, List.nil_append, false_iff, not_and, not_not]
      exact isOnCondition_of_head? (expands_of_earlyFailures_eq_nil early .dependsOn)
    | cons first rest =>
      have unconditional := not_isOnCondition_of_mem_earlyFailures (early ▸ List.mem_cons_self)
      simp only [List.head?_cons, Option.some.injEq, List.cons_append]
      constructor
      · rintro rfl
        exact ⟨rfl, unconditional⟩
      · exact And.left
  · intro entry checked
    have early := checks.exists_ok_iff.mp ⟨entry, checked⟩
    rw [early, List.nil_append,
      flatMap_targetFailures (expands_of_earlyFailures_eq_nil early .dependsOn)] at compiles
    cases ended : (compile { other with detectCycles := true } globals project).outcome with
    | ok compiled =>
      have none := compiles.exists_ok_iff.mp ⟨compiled, ended⟩
      refine .inl ⟨?_, compiled, rfl, defaultTarget_eq_of_checkProject ?_ checked ended⟩
      · intro target declared
        exact conditionFailure?_eq_none_iff.mp
          (Option.toList_eq_nil_iff.mp (List.flatMap_eq_nil_iff.mp none target declared))
      · exact sameProperty
    | error failure =>
      obtain ⟨earlier, target, later, divided, failed, expand⟩ :=
        head?_flatMap_toList.mp ((compiles failure).mp ended)
      obtain ⟨raw, reason, present, text, unexpanded, rfl⟩ :=
        conditionFailure?_eq_some_iff.mp failed
      exact .inr ⟨earlier, target, later, raw, reason, divided,
        fun ahead listed => conditionFailure?_eq_none_iff.mp (expand ahead listed), present, text,
        unexpanded, rfl⟩

/-- A project whose second target has a skip condition that does not expand. -/
def conditionedProject : Project where
  targets := [
    { name := "Build", condition := some "false", dependsOnTargets := "Check" },
    { name := "Check", condition := some "$(Skip)" }]
  defaultTargets := some "Build"

/-- A document that is read as the project. -/
def conditionedDocument : Value :=
  .mapping [
    (.text "targets", .list [
      .mapping [(.text "name", .text "Build"), (.text "condition", .text "false"),
        (.text "depends_on_targets", .text "Check")],
      .mapping [(.text "name", .text "Check"), (.text "condition", .text "$(Skip)")]]),
    (.text "default_targets", .text "Build")]

/-- The checks pass, and compiling with other settings fails over the condition. -/
theorem conditionedProject_fails_after_checks :
    Project.read conditionedDocument = .valid conditionedProject ∧
      (checkProject {} [] conditionedProject).outcome = .ok "Build" ∧
      (compile { indentSize := 2, detectCycles := true } [] conditionedProject).outcome =
        .error (.controlFlow "Check" "condition" "$(Skip)" "undefined property 'Skip'") := by
  have validated : conditionedProject.Validated := ⟨conditionedDocument, rfl⟩
  have checked : (checkProject {} [] conditionedProject).outcome = .ok "Build" := by cbv
  have expanded : (PropertyTable.ofProject conditionedProject []).expand "false" =
      .ok "false" := by cbv
  have unexpanded : (PropertyTable.ofProject conditionedProject []).expand "$(Skip)" =
      .error (.undefined "Skip") := by cbv
  have sameProperty : ({ indentSize := 2 } : Settings).defaultTargetProperty =
      ({} : Settings).defaultTargetProperty := rfl
  refine ⟨rfl, checked, ?_⟩
  obtain ⟨_, agree⟩ := validation_agrees_with_compilation validated [] sameProperty
  obtain ⟨expand, _⟩ | ⟨earlier, target, later, raw, reason, divided, _, present, _, failed,
    ended⟩ := agree "Build" checked
  · obtain ⟨test, value⟩ := expand conditionedProject.targets[1] (List.getElem_mem _) "$(Skip)"
      rfl (by decide)
    cases unexpanded.symm.trans value
  · obtain _ | ⟨first, earlier⟩ := earlier
    · cases divided
      cases present
      cases expanded.symm.trans failed
    · obtain _ | ⟨second, earlier⟩ := earlier
      · cases divided
        cases present
        cases unexpanded.symm.trans failed
        exact ended
      · cases earlier <;> cases divided

end RunOnce.Command
