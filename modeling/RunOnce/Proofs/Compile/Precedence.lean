import RunOnce.Proofs.Compile.Assembly
import RunOnce.Proofs.Ordering.Failures

/-!
# Which failure comes first

Assembling a project fails over its default target, over a text that decides
which calls are made, or over a cycle, and over nothing else. Several of these
can be wrong at once; then the first one in a fixed order is reported.
-/

namespace RunOnce.Compile

open Relation
open RunOnce.Document
open RunOnce.Expansion
open RunOnce.Generated
open RunOnce.Journal
open RunOnce.Journal.Traced
open RunOnce.Model
open RunOnce.Ordering
open RunOnce.Text

/-! ## Default targets -/

/-- The failure to find a default target, if there is none. -/
def entryFailures (project : Project) (expander : Expander) (settings : Settings)
    (globals : List (String × String)) : List Failure :=
  match (defaultTargetList project expander settings globals).outcome with
  | .error failure => [failure]
  | .ok (source, list) =>
    if splitTargetList list = [] then [.noDefaultTarget source none] else []

variable {project : Project} {expander : Expander} {settings : Settings}
  {globals : List (String × String)}

theorem failsInOrder_resolveDefaultTarget :
    FailsInOrder (resolveDefaultTarget project expander settings globals)
      (entryFailures project expander settings globals) := by
  intro failure
  rw [outcome_resolveDefaultTarget, entryFailures]
  cases (defaultTargetList project expander settings globals).outcome with
  | error other => simp [Except.bind]
  | ok listed =>
    simp only [Except.bind, firstTarget]
    cases splitTargetList listed.2 <;> simp

/-- A default target is found exactly when there is a list that names one. -/
theorem entryFailures_eq_nil_iff :
    entryFailures project expander settings globals = [] ↔
      ∃ source list,
        (defaultTargetList project expander settings globals).outcome = .ok (source, list) ∧
          splitTargetList list ≠ [] := by
  unfold entryFailures
  cases (defaultTargetList project expander settings globals).outcome with
  | error failure => simp
  | ok found =>
    obtain ⟨source, list⟩ := found
    simp only [Except.ok.injEq, Prod.mk.injEq]
    constructor
    · intro none
      refine ⟨source, list, ⟨rfl, rfl⟩, ?_⟩
      intro empty
      rw [if_pos empty] at none
      cases none
    · rintro ⟨_, _, ⟨rfl, rfl⟩, names⟩
      exact if_neg names

theorem defaultTargetList_eq_error {failure : Failure}
    (failed : (defaultTargetList project expander settings globals).outcome = .error failure) :
    ∃ source details, failure = .noDefaultTarget source details := by
  unfold defaultTargetList at failed
  cases own : project.defaultTargets.filter hasText with
  | some raw =>
    cases expanded : expander raw with
    | ok list => simp [own, expanded] at failed
    | error reason =>
      simp only [own, expanded, Failure.outcome_throw, Except.error.injEq] at failed
      exact ⟨_, _, failed.symm⟩
  | none =>
    simp only [own] at failed
    split at failed
    · cases failed
    · split at failed
      · cases failed
      · cases failed
        exact ⟨_, _, rfl⟩

/-- Without a default target the failure says so. -/
theorem noDefaultTarget_of_mem_entryFailures {failure : Failure}
    (listed : failure ∈ entryFailures project expander settings globals) :
    ∃ source details, failure = .noDefaultTarget source details := by
  unfold entryFailures at listed
  cases ended : (defaultTargetList project expander settings globals).outcome with
  | error other =>
    rw [ended] at listed
    cases List.mem_singleton.mp listed
    exact defaultTargetList_eq_error ended
  | ok found =>
    rw [ended] at listed
    by_cases empty : splitTargetList found.2 = []
    · simp only [if_pos empty, List.mem_singleton] at listed
      exact ⟨_, _, listed⟩
    · simp [empty] at listed

/-! ## Procedures -/

/-- The failure of a target's skip condition. -/
def conditionFailure? (expander : Expander) (target : Target) : Option Failure :=
  target.condition.bind (textFailure? expander target.name "condition")

/-- Whether a target has no skip condition, or one that is blank or expands. -/
def ConditionExpands (expander : Expander) (target : Target) : Prop :=
  ∀ raw, target.condition = some raw → hasText raw = true → ∃ test, expander raw = .ok test

theorem conditionFailure?_eq_none_iff {target : Target} :
    conditionFailure? expander target = none ↔ ConditionExpands expander target := by
  unfold conditionFailure? ConditionExpands
  cases target.condition with
  | none => simp
  | some raw => simp [textFailure?_eq_none_iff]

theorem failsInOrder_skipStatements (expander : Expander) (target : Target) :
    FailsInOrder (skipStatements expander target)
      (conditionFailure? expander target).toList := by
  intro failure
  unfold skipStatements conditionFailure? effective textFailure?
  cases target.condition with
  | none => simp
  | some raw =>
    by_cases text : hasText raw = true
    · cases expanded : expander raw <;> simp [Option.filter, text, expanded]
    · simp [Option.filter, text]

/-- The failures that are met when a target is compiled. The values in its body
are not among them. -/
def targetFailures (expander : Expander) (target : Target) : List Failure :=
  (conditionFailure? expander target).toList ++ (listFailure? expander .dependsOn target).toList

theorem targetFailures_eq_nil_iff {target : Target} :
    targetFailures expander target = [] ↔
      ConditionExpands expander target ∧ Expands expander .dependsOn target := by
  simp [targetFailures, conditionFailure?_eq_none_iff, listFailure?_eq_none_iff]

theorem failsInOrder_procedure (context : Context) (target : Target) :
    FailsInOrder (procedure context target) (targetFailures context.expander target) := by
  apply (failsInOrder_skipStatements context.expander target).bind
  intro skip _
  apply (failsInOrder_dependencies context.expander target).bind_ok
  intro depends
  obtain ⟨body, compiled, _⟩ :
      GivesPlain (bodyStatements context.expander context.parameterOrder target.children :
        Traced Failure _) :=
    givesPlain_bodyStatements context.expander context.parameterOrder target.children
  exact ⟨_, (outcome_bind_of_ok compiled).trans rfl⟩

theorem failsInOrder_procedures (context : Context) (targets : List Target) :
    FailsInOrder (procedures context targets)
      (targets.flatMap (targetFailures context.expander)) := by
  induction targets with
  | nil => exact failsInOrder_pure []
  | cons target rest ih =>
    apply (failsInOrder_procedure context target).bind
    intro first _
    exact ih.bind_ok fun others => ⟨first :: others, rfl⟩

/-! ## Projects -/

/-- The failures that are met when a project is assembled: over the default
target, over the lists of targets to run before and after, if asked for over the
call graph, and over one target after the other. -/
def failuresInOrder (expander : Expander) (settings : Settings)
    (globals : List (String × String)) (project : Project) : List Failure :=
  entryFailures project expander settings globals ++
    (producerFailures expander project.targets ++
      ((if settings.detectCycles then
          dependencyFailures expander project.targets ++ cycleFailures expander project.targets
        else []) ++
        project.targets.flatMap (targetFailures expander)))

theorem failsInOrder_checkIfAsked {producers : Producers} {targets : List Target}
    (distinct : (declaredNames targets).Nodup)
    (built : (Producers.ofTargets expander targets).outcome = .ok producers) :
    FailsInOrder (checkIfAsked settings expander producers targets)
      (if settings.detectCycles then
        dependencyFailures expander targets ++ cycleFailures expander targets
      else []) := by
  unfold checkIfAsked
  split
  · exact failsInOrder_checkAcyclic distinct built
  · exact failsInOrder_pure ()

theorem failsInOrder_assemble (validated : project.Validated) :
    FailsInOrder (assemble expander settings globals project)
      (failuresInOrder expander settings globals project) := by
  unfold assemble
  refine FailsInOrder.bind_ok ?_ fun program => ⟨_, rfl⟩
  rw [assembleProgram_eq]
  apply failsInOrder_resolveDefaultTarget.bind
  intro entry _
  apply (Producers.failsInOrder_ofTargets expander project.targets).bind
  intro producers built
  apply (failsInOrder_checkIfAsked validated.nodup_declaredNames built).bind
  intro _ _
  exact (failsInOrder_procedures _ project.targets).bind_ok fun compiled => ⟨_, rfl⟩

/-- Nothing goes wrong exactly when a default target is found, every text that
decides calls is blank or expands, and there is no cycle if one is looked for. -/
theorem failuresInOrder_eq_nil_iff (distinct : (declaredNames project.targets).Nodup) :
    failuresInOrder expander settings globals project = [] ↔
      (∃ source list,
        (defaultTargetList project expander settings globals).outcome = .ok (source, list) ∧
          splitTargetList list ≠ []) ∧
      (∀ target ∈ project.targets,
        (∀ field, Expands expander field target) ∧ ConditionExpands expander target) ∧
      (settings.detectCycles = true →
        ∀ name, ¬TransGen (Calls expander project.targets) name name) := by
  have check : (if settings.detectCycles then
        dependencyFailures expander project.targets ++ cycleFailures expander project.targets
      else []) = [] ↔
      (settings.detectCycles = true →
        (∀ target ∈ project.targets, Expands expander .dependsOn target) ∧
          ∀ name, ¬TransGen (Calls expander project.targets) name name) := by
    cases settings.detectCycles <;>
      simp [dependencyFailures_eq_nil_iff, cycleFailures_eq_nil_iff distinct]
  simp only [failuresInOrder, List.append_eq_nil_iff, entryFailures_eq_nil_iff,
    producerFailures_eq_nil_iff, check, List.flatMap_eq_nil_iff, targetFailures_eq_nil_iff]
  constructor
  · rintro ⟨resolves, producersExpand, checked, compile⟩
    refine ⟨resolves, ?_, fun detects => (checked detects).2⟩
    intro target declared
    obtain ⟨before, after⟩ := producersExpand target declared
    obtain ⟨condition, dependsOn⟩ := compile target declared
    refine ⟨?_, condition⟩
    rintro (_ | _ | _)
    · exact dependsOn
    · exact before
    · exact after
  · rintro ⟨resolves, expand, acyclic⟩
    refine ⟨resolves, ?_, ?_, ?_⟩
    · intro target declared
      exact ⟨(expand target declared).1 .before, (expand target declared).1 .after⟩
    · intro detects
      exact ⟨fun target declared => (expand target declared).1 .dependsOn, acyclic detects⟩
    · intro target declared
      exact ⟨(expand target declared).2, (expand target declared).1 .dependsOn⟩

/-! ## Texts that decide calls -/

/-- The texts of a target that decide which calls are made. -/
def targetTexts (target : Target) : List String :=
  target.condition.toList ++ OrderingField.all.map fun field => field.raw target

/-- The texts of a project that decide which calls are made. The values in the
bodies of targets are not among them. -/
def controlTexts (project : Project) : List String :=
  project.defaultTargets.toList ++ project.targets.flatMap targetTexts

variable {other : Expander}

theorem agreeOnLists_of_controlTexts
    (agree : ∀ raw ∈ controlTexts project, other raw = expander raw) :
    AgreeOnLists expander other project.targets := by
  intro target declared field
  apply agree
  apply List.mem_append_right
  apply List.mem_flatMap.mpr
  refine ⟨target, declared, List.mem_append_right _ ?_⟩
  cases field <;> simp [OrderingField.all]

theorem entryFailures_eq_of_agree
    (agree : ∀ raw ∈ controlTexts project, other raw = expander raw) :
    entryFailures project other settings globals =
      entryFailures project expander settings globals := by
  have same : defaultTargetList project other settings globals =
      defaultTargetList project expander settings globals := by
    unfold defaultTargetList
    cases own : project.defaultTargets.filter hasText with
    | none => rfl
    | some raw =>
      have listed : project.defaultTargets = some raw := (Option.filter_eq_some_iff.mp own).1
      have agreed : other raw = expander raw :=
        agree raw (List.mem_append_left _ (by simp [listed]))
      simp only [agreed]
  rw [entryFailures, same, entryFailures]

theorem targetFailures_eq_of_agree
    (agree : ∀ raw ∈ controlTexts project, other raw = expander raw) {target : Target}
    (declared : target ∈ project.targets) :
    targetFailures other target = targetFailures expander target := by
  have condition : conditionFailure? other target = conditionFailure? expander target := by
    unfold conditionFailure?
    cases own : target.condition with
    | none => rfl
    | some raw =>
      have agreed : other raw = expander raw := by
        apply agree
        apply List.mem_append_right
        exact List.mem_flatMap.mpr
          ⟨target, declared, List.mem_append_left _ (by simp [own])⟩
      exact textFailure?_congr agreed target.name "condition"
  rw [targetFailures, condition,
    (agreeOnLists_of_controlTexts agree).listFailure?_eq .dependsOn declared, targetFailures]

/-- How any other text expands does not matter. -/
theorem failuresInOrder_eq_of_agree
    (agree : ∀ raw ∈ controlTexts project, other raw = expander raw) :
    failuresInOrder other settings globals project =
      failuresInOrder expander settings globals project := by
  have lists := agreeOnLists_of_controlTexts agree
  have targets : project.targets.flatMap (targetFailures other) =
      project.targets.flatMap (targetFailures expander) :=
    List.flatMap_congr fun target declared => targetFailures_eq_of_agree agree declared
  simp only [failuresInOrder, entryFailures_eq_of_agree agree, lists.producerFailures_eq,
    lists.dependencyFailures_eq, lists.cycleFailures_eq, targets]

/-! ## Which projects assemble -/

/-- A project assembles exactly when its default target is found, every text that
decides calls is blank or expands, and there is no cycle if one is looked for. If
it does not, the first failure is reported: that there is no default target; then
the lists of targets to run before and after, target by target; then, if cycles
are looked for, the lists of dependencies, target by target, and a cycle; then
the skip condition and the dependencies, target by target. How the other texts of
the project expand, and whether they do, makes no difference. -/
theorem assembles_or_reports_first_failure (validated : project.Validated) :
    ((∃ compiled, (assemble expander settings globals project).outcome = .ok compiled) ↔
      (∃ source list,
        (defaultTargetList project expander settings globals).outcome = .ok (source, list) ∧
          splitTargetList list ≠ []) ∧
      (∀ target ∈ project.targets,
        (∀ field, Expands expander field target) ∧ ConditionExpands expander target) ∧
      (settings.detectCycles = true →
        ∀ name, ¬TransGen (Calls expander project.targets) name name)) ∧
    (∀ failure, (assemble expander settings globals project).outcome = .error failure ↔
      (failuresInOrder expander settings globals project).head? = some failure) ∧
    (∀ failure ∈ entryFailures project expander settings globals,
      ∃ source details, failure = .noDefaultTarget source details) ∧
    ∀ other : Expander, (∀ raw ∈ controlTexts project, other raw = expander raw) →
      ∀ failure, (assemble other settings globals project).outcome = .error failure ↔
        (assemble expander settings globals project).outcome = .error failure := by
  refine ⟨?_, failsInOrder_assemble validated, ?_, ?_⟩
  · rw [(failsInOrder_assemble validated).exists_ok_iff]
    exact failuresInOrder_eq_nil_iff validated.nodup_declaredNames
  · intro failure listed
    exact noDefaultTarget_of_mem_entryFailures listed
  · intro other agree failure
    rw [failsInOrder_assemble validated failure, failsInOrder_assemble validated failure,
      failuresInOrder_eq_of_agree agree]

/-- An expander that knows no names. -/
def plainTextOnly : Expander := fun raw =>
  if '$' ∈ raw.toList then .error (.other "no names are known") else .ok raw

/-- A project in which the first target has a skip condition, dependencies and a
parameter that do not expand, and the second one wants to run before names that
do not. -/
def brokenProject : Project where
  targets := [
    { name := "Build", condition := some "$(Skip)", dependsOnTargets := "Check;$(Needs)",
      children := [.task { name := "Copy", parameters := [("To", "$(Out)")] }] },
    { name := "Check", beforeTargets := "Build;$(More)" }]
  defaultTargets := some "Build"

/-- A document that is read as the project. -/
def brokenDocument : Value :=
  .mapping [
    (.text "targets", .list [
      .mapping [(.text "name", .text "Build"),
        (.text "condition", .text "$(Skip)"),
        (.text "depends_on_targets", .text "Check;$(Needs)"),
        (.text "children", .list [.mapping [
          (.text "kind", .text "task"), (.text "name", .text "Copy"),
          (.text "parameters", .mapping [(.text "To", .text "$(Out)")])]])],
      .mapping [(.text "name", .text "Check"),
        (.text "before_targets", .text "Build;$(More)")]]),
    (.text "default_targets", .text "Build")]

/-- The list of the second target is asked for first. -/
theorem brokenProject_reports_before_targets :
    Project.read brokenDocument = .valid brokenProject ∧
      (assemble plainTextOnly { detectCycles := true } [] brokenProject).outcome =
        .error (.controlFlow "Check" "before_targets" "Build;$(More)" "no names are known") :=
  ⟨rfl, ((assembles_or_reports_first_failure ⟨brokenDocument, rfl⟩).2.1 _).mpr (by decide)⟩

end RunOnce.Compile
