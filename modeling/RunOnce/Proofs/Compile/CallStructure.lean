import RunOnce.Proofs.Compile.Precedence

/-!
# The calls of procedures and the call graph

The search for cycles works on a graph that is drawn from the targets, not from
the procedures. This file reads the guarded calls off a procedure, wherever in it
they stand, and shows that the graph has exactly these calls, as far as they name
declared targets. It also shows that the graph cannot be drawn exactly when some
procedure cannot be written because of its dependencies.
-/

namespace RunOnce.Compile

open RunOnce.Execution
open RunOnce.Expansion
open RunOnce.Generated
open RunOnce.Journal
open RunOnce.Journal.Traced
open RunOnce.Model
open RunOnce.Ordering
open RunOnce.Text

/-! ## Guarded calls -/

mutual

/-- The targets of the guarded calls in a statement, in order. -/
def callsIn : Statement → List String
  | .callOnce target => [target]
  | .guarded _ body => callsInAll body
  | .blank | .remark _ | .comment _ | .skipWhen _ _ | .assign _ _ | .invoke _ _ | .markRun _ => []

/-- The targets of the guarded calls in a sequence of statements, in order. -/
def callsInAll : List Statement → List String
  | [] => []
  | statement :: rest => callsIn statement ++ callsInAll rest

end

theorem callsInAll_append (first second : List Statement) :
    callsInAll (first ++ second) = callsInAll first ++ callsInAll second := by
  induction first with
  | nil => rfl
  | cons statement rest ih => simp [callsInAll, ih]

mutual

/-- The statements of a body call nothing. -/
theorem callsIn_of_isPlain {statement : Statement} (plain : isPlain statement = true) :
    callsIn statement = [] := by
  cases statement with
  | guarded test body => exact callsInAll_of_arePlain plain
  | callOnce target => cases plain
  | _ => rfl

theorem callsInAll_of_arePlain {statements : List Statement}
    (plain : arePlain statements = true) : callsInAll statements = [] := by
  cases statements with
  | nil => rfl
  | cons statement rest =>
    rw [arePlain, Bool.and_eq_true] at plain
    rw [callsInAll, callsIn_of_isPlain plain.1, callsInAll_of_arePlain plain.2]
    rfl

end

theorem callsInAll_callSection (title : String) (names : List String) :
    callsInAll (callSection title names) = names := by
  have calls : callsInAll (names.map .callOnce) = names := by
    induction names with
    | nil => rfl
    | cons name rest ih => simp [callsInAll, callsIn, ih]
  unfold callSection
  split
  · rename_i none
    rw [List.isEmpty_iff.mp none]
    rfl
  · exact calls

theorem callsInAll_of_skipStatements {expander : Expander} {target : Target}
    {skip : List Statement} (compiled : (skipStatements expander target).outcome = .ok skip) :
    callsInAll skip = [] := by
  unfold skipStatements at compiled
  split at compiled
  · cases compiled
    rfl
  · rename_i raw _
    cases expanded : expander raw with
    | error reason => simp [expanded] at compiled
    | ok test =>
      simp only [expanded, outcome_pure, Except.ok.injEq] at compiled
      subst compiled
      rfl

/-- The calls of a procedure begin with the section of dependencies. -/
theorem exists_sections_of_procedure {context : Context} {target : Target} {result : Procedure}
    (compiled : (procedure context target).outcome = .ok result) :
    ∃ skip later, result.body = skip ++
        callSection "DependsOnTargets" (listed context.expander .dependsOn target) ++ later ∧
      callsInAll skip = [] ∧
      callsInAll later =
        context.producers.before target.name ++ context.producers.after target.name := by
  obtain ⟨_, skip, body, compiledSkip, plain, rfl⟩ := procedure_eq_ok compiled
  have blank : callsInAll (if target.tasks.isEmpty then [] else [.blank]) = [] := by
    split <;> rfl
  refine ⟨skip, callSection "BeforeTargets" (context.producers.before target.name) ++ [.blank] ++
    body ++ (if target.tasks.isEmpty then [] else [.blank]) ++
    callSection "AfterTargets" (context.producers.after target.name) ++ [.markRun target.name],
    ?_, callsInAll_of_skipStatements compiledSkip, ?_⟩
  · simp only [List.append_assoc]
  · simp only [callsInAll_append, callsInAll_callSection, callsInAll_of_arePlain plain, blank]
    simp [callsInAll, callsIn]

/-- A procedure calls the targets it depends on, those that run before it and
those that run after it, section by section, and nothing else. -/
theorem callsInAll_procedure {context : Context} {target : Target} {result : Procedure}
    (compiled : (procedure context target).outcome = .ok result) :
    callsInAll result.body =
      listed context.expander .dependsOn target ++ context.producers.before target.name ++
        context.producers.after target.name := by
  obtain ⟨skip, later, body, skipCalls, laterCalls⟩ := exists_sections_of_procedure compiled
  rw [body, callsInAll_append, callsInAll_append, callsInAll_callSection, skipCalls, laterCalls,
    List.nil_append, List.append_assoc]

/-! ## Failures over dependencies -/

/-- A target without its skip condition. -/
def unconditional (target : Target) : Target :=
  { target with condition := none }

/-- Without a skip condition, only the dependencies can keep a target from being
compiled. -/
theorem procedure_unconditional_eq_error_iff {context : Context} {target : Target}
    {failure : Failure} :
    (procedure context (unconditional target)).outcome = .error failure ↔
      listFailure? context.expander .dependsOn target = some failure := by
  rw [failsInOrder_procedure context (unconditional target) failure]
  change (listFailure? context.expander .dependsOn target).toList.head? = some failure ↔ _
  cases listFailure? context.expander .dependsOn target <;> simp

theorem exists_procedure_unconditional_iff {context : Context} {target : Target} :
    (∃ result, (procedure context (unconditional target)).outcome = .ok result) ↔
      listFailure? context.expander .dependsOn target = none := by
  rw [(failsInOrder_procedure context (unconditional target)).exists_ok_iff]
  change (listFailure? context.expander .dependsOn target).toList = [] ↔ _
  exact Option.toList_eq_nil_iff

/-- Past its skip condition, a target fails to compile over its dependencies or
not at all. -/
theorem procedure_eq_error_iff_unconditional {context : Context} {target : Target}
    {skip : List Statement} {failure : Failure}
    (passes : (skipStatements context.expander target).outcome = .ok skip) :
    (procedure context target).outcome = .error failure ↔
      (procedure context (unconditional target)).outcome = .error failure := by
  have none := (failsInOrder_skipStatements context.expander target).exists_ok_iff.mp ⟨skip, passes⟩
  rw [procedure_unconditional_eq_error_iff, failsInOrder_procedure context target failure,
    targetFailures, none]
  cases listFailure? context.expander .dependsOn target <;> simp

/-! ## The call graph -/

/-- For targets with different names, the call graph holds the calls of each
procedure that name declared targets, in order and as often as they stand there.
The graph cannot be drawn exactly when some target cannot be compiled because of
its dependencies, skip conditions left aside, and then the failure is that of the
first such target: it names the target, the field and the text that does not
expand. -/
theorem call_graph_is_call_structure {targets : List Target}
    (distinct : (declaredNames targets).Nodup) (context : Context) :
    (∀ graph, (CallGraph.ofTargets context.expander context.producers targets).outcome =
        .ok graph →
      ∀ target ∈ targets, ∀ result, (procedure context target).outcome = .ok result →
        graph.get? target.name =
          some ((callsInAll result.body).filter (· ∈ declaredNames targets))) ∧
    (∀ failure, (CallGraph.ofTargets context.expander context.producers targets).outcome =
        .error failure ↔
      ∃ earlier target later, targets = earlier ++ target :: later ∧
        (procedure context (unconditional target)).outcome = .error failure ∧
        ∀ other ∈ earlier, ∃ result,
          (procedure context (unconditional other)).outcome = .ok result) ∧
    (∀ target failure, (procedure context (unconditional target)).outcome = .error failure ↔
      hasText target.dependsOnTargets = true ∧
        ∃ reason, context.expander target.dependsOnTargets = .error reason ∧
          failure = .controlFlow target.name "depends_on_targets" target.dependsOnTargets
            reason.text) ∧
    ∀ target skip failure, (skipStatements context.expander target).outcome = .ok skip →
      ((procedure context target).outcome = .error failure ↔
        (procedure context (unconditional target)).outcome = .error failure) := by
  refine ⟨?_, ?_, ?_, ?_⟩
  · intro graph drawn target declared result compiled
    obtain ⟨_, rfl⟩ := (CallGraph.addTargets_eq_ok_iff (by simpa [Assoc.keys] using distinct)).mp
      drawn
    rw [callsInAll_procedure compiled, Assoc.get?_eq_some_iff_mem]
    · simpa using ⟨target, declared, rfl, rfl⟩
    · simpa [Assoc.keys, declaredNames, Function.comp_def] using distinct
  · intro failure
    rw [CallGraph.failsInOrder_ofTargets _ _ targets failure, dependencyFailures,
      head?_flatMap_toList]
    simp only [procedure_unconditional_eq_error_iff, exists_procedure_unconditional_iff]
  · intro target failure
    rw [procedure_unconditional_eq_error_iff]
    exact textFailure?_eq_some_iff
  · intro target skip failure passes
    exact procedure_eq_error_iff_unconditional passes

/-- Targets that name each other more than once, and names that no target has. -/
def tangledTargets : List Target :=
  [{ name := "Build", dependsOnTargets := "Check; Missing;;Check" }, { name := "Check" }]

/-- Producers that do not follow from the targets. -/
def tangledProducers : Producers where
  beforeMap := [("Build", ["Ghost", "Check"])]
  afterMap := [("Build", ["Build"])]

theorem tangledTargets_calls : ∃ graph result,
    (CallGraph.ofTargets .ok tangledProducers tangledTargets).outcome = .ok graph ∧
      (procedure ⟨.ok, tangledProducers, .sorted⟩ tangledTargets[0]).outcome = .ok result ∧
      callsInAll result.body = ["Check", "Missing", "Check", "Ghost", "Check", "Build"] ∧
      graph.get? "Build" = some ["Check", "Check", "Check", "Build"] := by
  have distinct : (declaredNames tangledTargets).Nodup := by decide
  have declared : tangledTargets[0] ∈ tangledTargets := List.getElem_mem _
  obtain ⟨graph, drawn⟩ := (CallGraph.failsInOrder_ofTargets .ok tangledProducers
    tangledTargets).exists_ok_iff.mpr (by decide)
  obtain ⟨result, compiled⟩ := (failsInOrder_procedure ⟨.ok, tangledProducers, .sorted⟩
    tangledTargets[0]).exists_ok_iff.mpr (by decide)
  have calls : callsInAll result.body =
      ["Check", "Missing", "Check", "Ghost", "Check", "Build"] :=
    (callsInAll_procedure compiled).trans (by decide)
  obtain ⟨same, _⟩ :=
    call_graph_is_call_structure distinct ⟨.ok, tangledProducers, .sorted⟩
  have entry := same graph drawn _ declared result compiled
  rw [calls] at entry
  exact ⟨graph, result, drawn, compiled, calls, entry.trans (by decide)⟩

end RunOnce.Compile
