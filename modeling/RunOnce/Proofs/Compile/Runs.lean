import RunOnce.Command.ValidateCommand
import RunOnce.Proofs.Compile.Assembly
import RunOnce.Proofs.Execution.Finished
import RunOnce.Proofs.Execution.Termination

/-!
# Runs of assembled programs

What the program of a project does when it is run, for any outcome of its skip
conditions and tests: which targets it runs and how often, whether it comes to an
end, and what has happened when the body of a target begins and when its flag is
set.
-/

namespace RunOnce.Compile

open Relation
open RunOnce.Command
open RunOnce.Document
open RunOnce.Execution
open RunOnce.Expansion
open RunOnce.Generated
open RunOnce.Journal
open RunOnce.Model
open RunOnce.Ordering

variable {expander : Expander} {settings : Settings} {globals : List (String × String)}
  {project : Project} {compiled : Compiled} {valuation : Valuation} {history : History}

/-- The run of an assembled program that has come to an end, seen through the
outline of the project. -/
theorem complete_of_assemble (validated : project.Validated)
    (assembled : (assemble expander settings globals project).outcome = .ok compiled)
    (finishes : compiled.program.Finishes valuation history) :
    (outlineOf expander project.targets compiled.program valuation).Complete
      compiled.program history :=
  Outline.complete_of_finishes
    ((isProgramOf_assemble assembled).describes validated.nodup_declaredNames valuation) finishes

theorem reached_iff (validated : project.Validated)
    (assembled : (assemble expander settings globals project).outcome = .ok compiled)
    {name : String} :
    (outlineOf expander project.targets compiled.program valuation).Reached compiled.program name ↔
      ReflTransGen (CallsUnskipped expander project.targets valuation) compiled.program.entry
        name := by
  rw [Outline.Reached, (isProgramOf_assemble assembled).live_eq validated.nodup_declaredNames]

/-! ## A project and its run -/

/-- A target that depends on another one and does something. -/
def sampleBuild : Target where
  name := "Build"
  dependsOnTargets := "Compile; Missing"
  children := [.task { name := "Link" }]

def sampleCompile : Target where
  name := "Compile"

/-- A target with a skip condition. -/
def sampleLint : Target where
  name := "Lint"
  condition := some "true"
  beforeTargets := "Build"

def sampleReport : Target where
  name := "Report"
  afterTargets := "Build"

def sampleProject : Project where
  targets := [sampleBuild, sampleCompile, sampleLint, sampleReport]
  defaultTargets := some "Build"

/-- A document that is read as the project. -/
def sampleDocument : Value :=
  .mapping [
    (.text "targets", .list [
      .mapping [(.text "name", .text "Build"),
        (.text "depends_on_targets", .text "Compile; Missing"),
        (.text "children", .list [.mapping [
          (.text "kind", .text "task"), (.text "name", .text "Link")]])],
      .mapping [(.text "name", .text "Compile")],
      .mapping [(.text "name", .text "Lint"), (.text "condition", .text "true"),
        (.text "before_targets", .text "Build")],
      .mapping [(.text "name", .text "Report"), (.text "after_targets", .text "Build")]]),
    (.text "default_targets", .text "Build")]

theorem sampleProject_validated : sampleProject.Validated :=
  ⟨sampleDocument, rfl⟩

/-- All skip conditions hold. -/
def sampleValuation : Valuation where
  skips _ := true
  holds _ _ := true

/-- All that happens when the project is run. -/
def sampleHistory : History :=
  [.marked "Build", .marked "Report", .entered "Report", .attempted "Build" "Report",
    .acted "Build" (.invoke "Link" []), .marked "Lint", .entered "Lint",
    .attempted "Build" "Lint", .attempted "Build" "Missing", .marked "Compile",
    .entered "Compile", .attempted "Build" "Compile", .entered "Build"]

theorem sampleProject_finishes : ∃ compiled,
    (assemble .ok { parameterOrder := .declared } [] sampleProject).outcome = .ok compiled ∧
      compiled.defaultTarget = "Build" ∧
      compiled.program.Finishes sampleValuation sampleHistory := by
  have result : (assemble .ok { parameterOrder := .declared } [] sampleProject).outcome.map
      (fun compiled => (compiled.defaultTarget,
        compiled.program.run sampleValuation 40 compiled.program.start)) =
      .ok ("Build", ⟨[], sampleHistory⟩) := by rfl
  cases assembled :
      (assemble .ok { parameterOrder := .declared } [] sampleProject).outcome with
  | error failure =>
    rw [assembled] at result
    cases result
  | ok compiled =>
    rw [assembled] at result
    obtain ⟨start, finished⟩ := Prod.mk.inj (Except.ok.inj result)
    exact ⟨compiled, rfl, start, 40, finished⟩

/-- The default target of the project calls the target that asked to run before
it. -/
theorem sampleProject_callsUnskipped :
    CallsUnskipped .ok sampleProject.targets sampleValuation "Build" "Lint" := by
  have build : sampleBuild ∈ sampleProject.targets := by simp [sampleProject]
  have lint : sampleLint ∈ sampleProject.targets := by simp [sampleProject]
  refine ⟨.before build lint (by decide), ?_⟩
  intro skipped
  have skips :=
    (skipped_name_iff sampleProject_validated.nodup_declaredNames build).mp skipped
  exact absurd skips (by decide)

/-! ## How often targets run -/

/-- In a run that comes to an end, a target is entered once if the default target
leads to it by way of targets that are not skipped, and never if not. Its flag is
set as often as it is entered, and each action that stands in its procedure is
done at most once, in its turn. -/
theorem target_runs_once (validated : project.Validated)
    (assembled : (assemble expander settings globals project).outcome = .ok compiled)
    (finishes : compiled.program.Finishes valuation history)
    {target : Target} (declared : target ∈ project.targets) :
    (ReflTransGen (CallsUnskipped expander project.targets valuation) compiled.defaultTarget
        target.name → history.count (.entered target.name) = 1) ∧
      (¬ReflTransGen (CallsUnskipped expander project.targets valuation) compiled.defaultTarget
        target.name → history.count (.entered target.name) = 0) ∧
      history.count (.marked target.name) = history.count (.entered target.name) ∧
      ∃ procedure, compiled.program.procedure? target.name = some procedure ∧
        ((record target.name history).filterMap Occurrence.action?).Sublist
          (actionsOfAll procedure.body) := by
  have complete := complete_of_assemble validated assembled finishes
  have known := (isProgramOf_assemble assembled).procedure?_ne_none_iff.mpr
    (List.mem_map_of_mem declared)
  have start := defaultTarget_assemble assembled
  have reached := complete.entered_iff.trans
    ((and_iff_right known).trans (reached_iff validated assembled))
  refine ⟨?_, ?_, ?_, ?_⟩
  · intro path
    exact (complete.count_of_entered (reached.mpr (start ▸ path))).1
  · intro unreachable
    exact (complete.count_of_not_entered fun entered =>
      unreachable (start ▸ reached.mp entered)).1
  · by_cases entered : .entered target.name ∈ history
    · obtain ⟨once, marked⟩ := complete.count_of_entered entered
      rw [once, marked]
    · obtain ⟨never, unmarked⟩ := complete.count_of_not_entered entered
      rw [never, unmarked]
  · obtain ⟨procedure, found⟩ := Option.ne_none_iff_exists'.mp known
    refine ⟨procedure, found, ?_⟩
    rw [← actions_outlineOf found]
    exact complete.actions_sublist target.name

theorem target_runs_once_lint : ∃ compiled,
    (assemble .ok { parameterOrder := .declared } [] sampleProject).outcome = .ok compiled ∧
      compiled.program.Finishes sampleValuation sampleHistory ∧
      sampleHistory.count (.entered "Lint") = 1 ∧ sampleHistory.count (.marked "Lint") = 1 := by
  obtain ⟨compiled, assembled, start, finishes⟩ := sampleProject_finishes
  have declared : sampleLint ∈ sampleProject.targets := by simp [sampleProject]
  obtain ⟨entersOnce, _, marks, _⟩ :=
    target_runs_once sampleProject_validated assembled finishes declared
  have once := entersOnce (start ▸ .single sampleProject_callsUnskipped)
  exact ⟨compiled, assembled, finishes, once, marks.trans once⟩

/-! ## Which runs come to an end -/

/-- Whether a call graph has a call whose caller is not skipped. -/
def UnskippedEdge (graph : CallGraph) (targets : List Target) (valuation : Valuation)
    (caller callee : String) : Prop :=
  graph.Edge caller callee ∧ ¬Skipped valuation targets caller

/-- The run of any program of targets comes to an end if and only if it gets to
no cycle of calls whose callers are not skipped. -/
theorem IsProgramOf.terminates_iff {targets : List Target} {program : Program}
    (distinct : (declaredNames targets).Nodup)
    (isProgram : IsProgramOf expander targets program) :
    program.Terminates valuation ↔
      ¬∃ name, ReflTransGen (CallsUnskipped expander targets valuation) program.entry name ∧
        TransGen (CallsUnskipped expander targets valuation) name name := by
  rw [Outline.terminates_iff_acyclic (isProgram.describes distinct valuation), Outline.Acyclic]
  simp only [Outline.Reached, isProgram.live_eq distinct, not_exists, not_and]

/-- Which default target a program has does not matter for its procedures. -/
theorem IsProgramOf.with_entry {targets : List Target} {program : Program}
    (isProgram : IsProgramOf expander targets program) (entry : String) :
    IsProgramOf expander targets { program with entry := entry } :=
  isProgram

/-- Once the check for cycles has passed, every run comes to an end, whatever the
default target is. -/
theorem IsProgramOf.terminates_of_checkAcyclic {targets : List Target} {program : Program}
    {producers : Producers} (distinct : (declaredNames targets).Nodup)
    (isProgram : IsProgramOf expander targets program)
    (built : (Producers.ofTargets expander targets).outcome = .ok producers)
    (checked : (checkAcyclic expander producers targets).outcome = .ok ())
    (valuation : Valuation) (entry : String) :
    ({ program with entry := entry } : Program).Terminates valuation := by
  obtain ⟨graph, drawn, none⟩ := checkAcyclic_eq_ok_iff.mp checked
  have edges := CallGraph.edge_eq_calls distinct built drawn
  apply ((isProgram.with_entry entry).terminates_iff distinct).mpr
  rintro ⟨name, _, cycle⟩
  apply (CallGraph.findCycle?_eq_none_iff graph).mp none name
  rw [edges]
  exact TransGen.mono (fun _ _ calls => calls.1) _ _ cycle

/-- The checks of a project find its default target only if its call graph has
no cycle. -/
theorem checkAcyclic_of_checkProject {entry : String} {producers : Producers}
    (built : (Producers.ofTargets (PropertyTable.ofProject project globals).expand
      project.targets).outcome = .ok producers)
    (passed : (checkProject settings globals project).outcome = .ok entry) :
    (checkAcyclic (PropertyTable.ofProject project globals).expand producers
      project.targets).outcome = .ok () := by
  obtain ⟨_, _, passed⟩ := Traced.outcome_bind_eq_ok_iff.mp passed
  obtain ⟨others, builtAgain, passed⟩ := Traced.outcome_bind_eq_ok_iff.mp passed
  obtain ⟨_, checked, _⟩ := Traced.outcome_bind_eq_ok_iff.mp passed
  rw [built] at builtAgain
  cases builtAgain
  exact checked

/-- The run of an assembled program comes to an end if and only if its default
target leads to no cycle of the call graph, all by way of targets that are not
skipped. So every run comes to an end once the graph was found to have no cycle:
on request when the project was assembled, or by the checks of the project. -/
theorem terminates_iff_no_reachable_cycle (validated : project.Validated)
    (assembled : (assemble expander settings globals project).outcome = .ok compiled) :
    ∃ producers graph,
      (Producers.ofTargets expander project.targets).outcome = .ok producers ∧
      (CallGraph.ofTargets expander producers project.targets).outcome = .ok graph ∧
      (∀ valuation, compiled.program.Terminates valuation ↔
        ¬∃ name,
          ReflTransGen (UnskippedEdge graph project.targets valuation) compiled.defaultTarget
            name ∧
          TransGen (UnskippedEdge graph project.targets valuation) name name) ∧
      ((checkAcyclic expander producers project.targets).outcome = .ok () →
        ∀ valuation entry,
          ({ compiled.program with entry := entry } : Program).Terminates valuation) ∧
      (settings.detectCycles = true →
        (checkAcyclic expander producers project.targets).outcome = .ok ()) ∧
      (expander = (PropertyTable.ofProject project globals).expand →
        ∀ checkSettings entry, (checkProject checkSettings globals project).outcome = .ok entry →
          (checkAcyclic expander producers project.targets).outcome = .ok ()) := by
  have distinct := validated.nodup_declaredNames
  have isProgram := isProgramOf_assemble assembled
  obtain ⟨producers, built, checked, results⟩ := assemble_eq_ok assembled
  obtain ⟨_, expand, _⟩ := procedures_eq_ok results
  obtain ⟨graph, drawn⟩ := CallGraph.exists_ofTargets distinct built expand
  have edges := CallGraph.edge_eq_calls distinct built drawn
  refine ⟨producers, graph, built, drawn, ?_, ?_, checked, ?_⟩
  · intro valuation
    have same : UnskippedEdge graph project.targets valuation =
        CallsUnskipped expander project.targets valuation := by
      funext caller callee
      rw [UnskippedEdge, edges, CallsUnskipped]
    rw [same, ← defaultTarget_assemble assembled]
    exact isProgram.terminates_iff distinct
  · intro passes
    exact isProgram.terminates_of_checkAcyclic distinct built passes
  · rintro rfl checkSettings entry passed
    exact checkAcyclic_of_checkProject built passed

theorem sampleProject_no_reachable_cycle : ∃ producers graph,
    (Producers.ofTargets .ok sampleProject.targets).outcome = .ok producers ∧
      (CallGraph.ofTargets .ok producers sampleProject.targets).outcome = .ok graph ∧
      ¬∃ name,
        ReflTransGen (UnskippedEdge graph sampleProject.targets sampleValuation) "Build" name ∧
          TransGen (UnskippedEdge graph sampleProject.targets sampleValuation) name name := by
  obtain ⟨compiled, assembled, start, finishes⟩ := sampleProject_finishes
  obtain ⟨producers, graph, built, drawn, terminates, _⟩ :=
    terminates_iff_no_reachable_cycle sampleProject_validated assembled
  have noCycle := (terminates sampleValuation).mp ⟨sampleHistory, finishes⟩
  rw [start] at noCycle
  exact ⟨producers, graph, built, drawn, noCycle⟩

/-! ## In which order targets run -/

/-- The targets that a target's procedure calls ahead of its body, declared ones
only: those it depends on and those that asked to run before it. -/
theorem mem_earlyCalls_of_lists {targets : List Target} {target other : Target}
    (declared : other ∈ targets)
    (lists : other.name ∈ listed expander .dependsOn target ∨
      target.name ∈ listed expander .before other) :
    other.name ∈ earlyCalls expander targets target := by
  rw [earlyCalls, List.mem_append, mem_requesters_iff]
  exact lists.imp_right fun asks => ⟨other, declared, rfl, asks⟩

/-- When the body of a target acts, the flags of all declared targets that it
depends on or that asked to run before it are set. When the flag of a target is
set, so are the flags of all targets that asked to run after it; they are called
in order of declaration once the body is over, and the ones whose flags were not
set by then are entered in between. A target that is skipped does nothing but set
its flag. -/
theorem targets_run_in_order (validated : project.Validated)
    (assembled : (assemble expander settings globals project).outcome = .ok compiled)
    (finishes : compiled.program.Finishes valuation history)
    {target : Target} (declared : target ∈ project.targets)
    (entered : .entered target.name ∈ history) :
    (¬Skips valuation target →
      (∀ later earlier action, history = later ++ .acted target.name action :: earlier →
        ∀ other ∈ project.targets,
          (other.name ∈ listed expander .dependsOn target ∨
            target.name ∈ listed expander .before other) →
          Flagged earlier other.name) ∧
      ∃ later afterBody upToBody,
        history = later ++ .marked target.name :: (afterBody ++ upToBody) ∧
        record target.name later = [] ∧
        record target.name afterBody =
          (requesters expander .after project.targets target.name).map
            (.attempted target.name) ∧
        afterBody.getLast? =
          (requesters expander .after project.targets target.name).head?.map
            (.attempted target.name) ∧
        ∀ other ∈ project.targets, target.name ∈ listed expander .after other →
          Flagged (afterBody ++ upToBody) other.name ∧
            (¬Flagged upToBody other.name → .entered other.name ∈ afterBody)) ∧
      (Skips valuation target →
        record target.name history = [.entered target.name, .marked target.name]) := by
  have distinct := validated.nodup_declaredNames
  have complete := complete_of_assemble validated assembled finishes
  have known : ∀ other ∈ project.targets, compiled.program.procedure? other.name ≠ none := by
    intro other otherDeclared
    exact (isProgramOf_assemble assembled).procedure?_ne_none_iff.mpr
      (List.mem_map_of_mem otherDeclared)
  have late : (outlineOf expander project.targets compiled.program valuation).late target.name =
      requesters expander .after project.targets target.name :=
    late_outlineOf distinct declared
  refine ⟨fun runs => ⟨?_, ?_⟩, ?_⟩
  · rintro later earlier action rfl other otherDeclared lists
    apply complete.callsFirst.of_append other.name _ (known other otherDeclared)
    rw [early_outlineOf distinct declared]
    exact mem_earlyCalls_of_lists otherDeclared lists
  · obtain ⟨later, afterBody, upToBody, split, ended, attempts, first, flags⟩ :=
      complete.late_calls entered fun skipped =>
        runs ((skipped_name_iff distinct declared).mp skipped)
    rw [late] at attempts first flags
    refine ⟨later, afterBody, upToBody, split, ended, attempts, ?_, ?_⟩
    · rw [first, List.head?_map]
    · intro other otherDeclared asks
      exact flags other.name (mem_requesters_iff.mpr ⟨other, otherDeclared, rfl, asks⟩)
        (known other otherDeclared)
  · intro skips
    exact complete.record_of_skipped entered ((skipped_name_iff distinct declared).mpr skips)

theorem targets_run_in_order_build : ∃ compiled,
    (assemble .ok { parameterOrder := .declared } [] sampleProject).outcome = .ok compiled ∧
      compiled.program.Finishes sampleValuation sampleHistory ∧
      Flagged [.marked "Lint", .entered "Lint", .attempted "Build" "Lint",
        .attempted "Build" "Missing", .marked "Compile", .entered "Compile",
        .attempted "Build" "Compile", .entered "Build"] "Lint" ∧
      record "Lint" sampleHistory = [.entered "Lint", .marked "Lint"] := by
  obtain ⟨compiled, assembled, _, finishes⟩ := sampleProject_finishes
  have build : sampleBuild ∈ sampleProject.targets := by simp [sampleProject]
  have lint : sampleLint ∈ sampleProject.targets := by simp [sampleProject]
  obtain ⟨ordered, _⟩ :=
    targets_run_in_order sampleProject_validated assembled finishes build (by decide)
  obtain ⟨_, skipped⟩ :=
    targets_run_in_order sampleProject_validated assembled finishes lint (by decide)
  have flagged := (ordered (by decide)).1
    [.marked "Build", .marked "Report", .entered "Report", .attempted "Build" "Report"] _ _ rfl
    sampleLint lint (.inr (by decide))
  exact ⟨compiled, assembled, finishes, flagged, skipped (by decide)⟩

end RunOnce.Compile
