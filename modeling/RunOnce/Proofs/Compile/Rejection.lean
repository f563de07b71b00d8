import RunOnce.Proofs.Compile.Assembly
import RunOnce.Proofs.Ordering.Cycle

/-!
# Projects that are refused

Asked to, the compiler refuses a project with a cycle of calls. It refuses exactly
the projects in which the declared order has a cycle, the cycle it reports is one
of that order, and names that no target has do not matter.
-/

namespace RunOnce.Compile

open Relation
open RunOnce.Document
open RunOnce.Expansion
open RunOnce.Journal
open RunOnce.Model
open RunOnce.Ordering

variable {expander : Expander} {settings : Settings} {globals : List (String × String)}
  {project : Project} {entry : String}

/-- A program is refused with a cycle exactly when the check is asked for and
refuses the call graph. -/
theorem assemble_eq_cyclic_iff {producers : Producers} {graph : CallGraph} {cycle : List String}
    (resolves : (resolveDefaultTarget project expander settings globals).outcome = .ok entry)
    (detects : settings.detectCycles = true)
    (built : (Producers.ofTargets expander project.targets).outcome = .ok producers)
    (drawn : (CallGraph.ofTargets expander producers project.targets).outcome = .ok graph) :
    (assemble expander settings globals project).outcome = .error (.cyclic cycle) ↔
      graph.findCycle? = some cycle := by
  have check : (checkIfAsked settings expander producers project.targets).outcome =
      .error (.cyclic cycle) ↔ graph.findCycle? = some cycle := by
    rw [checkIfAsked, if_pos detects, checkAcyclic_eq_error_iff drawn]
    simp [eq_comm]
  rw [← check, assemble, Traced.outcome_bind_eq_error_iff, assembleProgram_eq,
    Traced.outcome_bind_of_ok resolves, Traced.outcome_bind_of_ok built,
    Traced.outcome_bind_eq_error_iff]
  constructor
  · rintro ((refused | ⟨_, _, failed⟩) | ⟨_, _, failed⟩)
    · exact refused
    · -- After the check, only a value that does not expand can be in the way.
      rcases Traced.outcome_bind_eq_error_iff.mp failed with failed | ⟨_, _, failed⟩
      · obtain ⟨_, _, _, _, other⟩ := procedures_eq_error failed
        cases other
      · cases failed
    · cases failed
  · intro refused
    exact .inl (.inl refused)

/-! ## References to names that no target has -/

/-- Whether the targets of two lists have the same names, and list the same ones
of these names in all fields. -/
def AgreeOnDeclared (expander : Expander) (targets : List Target) (otherExpander : Expander)
    (others : List Target) : Prop :=
  declaredNames targets = declaredNames others ∧
    ∀ target ∈ targets, ∀ other ∈ others, target.name = other.name →
      ∀ field, ∀ name ∈ declaredNames targets,
        (name ∈ listed expander field target ↔ name ∈ listed otherExpander field other)

namespace AgreeOnDeclared

variable {otherExpander : Expander} {targets others : List Target}

theorem symm (agree : AgreeOnDeclared expander targets otherExpander others) :
    AgreeOnDeclared otherExpander others expander targets := by
  obtain ⟨names, lists⟩ := agree
  refine ⟨names.symm, ?_⟩
  intro other otherDeclared target declared same field name known
  exact (lists target declared other otherDeclared same.symm field name (names ▸ known)).symm

/-- Every target has a counterpart. -/
theorem exists_counterpart (agree : AgreeOnDeclared expander targets otherExpander others)
    {target : Target} (declared : target ∈ targets) :
    ∃ other ∈ others, other.name = target.name ∧
      ∀ field, ∀ name ∈ declaredNames targets,
        name ∈ listed expander field target → name ∈ listed otherExpander field other := by
  obtain ⟨names, lists⟩ := agree
  have known : target.name ∈ declaredNames others := names ▸ List.mem_map_of_mem declared
  obtain ⟨other, otherDeclared, same⟩ := List.mem_map.mp known
  refine ⟨other, otherDeclared, same, ?_⟩
  intro field name named
  exact (lists target declared other otherDeclared same.symm field name named).mp

theorem calls (agree : AgreeOnDeclared expander targets otherExpander others)
    {caller callee : String} (calls : Calls expander targets caller callee) :
    Calls otherExpander others caller callee := by
  cases calls with
  | dependsOn callerDeclared calleeDeclared lists =>
    obtain ⟨caller, callerThere, callerName, listsThere⟩ := agree.exists_counterpart callerDeclared
    obtain ⟨callee, calleeThere, calleeName, _⟩ := agree.exists_counterpart calleeDeclared
    rw [← callerName, ← calleeName]
    apply Calls.dependsOn callerThere calleeThere
    rw [calleeName]
    exact listsThere _ _ (List.mem_map_of_mem calleeDeclared) lists
  | before callerDeclared calleeDeclared lists =>
    obtain ⟨caller, callerThere, callerName, _⟩ := agree.exists_counterpart callerDeclared
    obtain ⟨callee, calleeThere, calleeName, listsThere⟩ :=
      agree.exists_counterpart calleeDeclared
    rw [← callerName, ← calleeName]
    apply Calls.before callerThere calleeThere
    rw [callerName]
    exact listsThere _ _ (List.mem_map_of_mem callerDeclared) lists
  | after callerDeclared calleeDeclared lists =>
    obtain ⟨caller, callerThere, callerName, _⟩ := agree.exists_counterpart callerDeclared
    obtain ⟨callee, calleeThere, calleeName, listsThere⟩ :=
      agree.exists_counterpart calleeDeclared
    rw [← callerName, ← calleeName]
    apply Calls.after callerThere calleeThere
    rw [callerName]
    exact listsThere _ _ (List.mem_map_of_mem callerDeclared) lists

/-- The declared order does not depend on names that no target has. -/
theorem calls_eq (agree : AgreeOnDeclared expander targets otherExpander others) :
    Calls expander targets = Calls otherExpander others := by
  funext caller callee
  exact propext ⟨agree.calls, agree.symm.calls⟩

end AgreeOnDeclared

/-! ## Which projects are refused -/

/-- The refusals of a project whose lists all expand are the cycles that are
found in a call graph with its declared order as edges. -/
theorem exists_graph_of_expands (validated : project.Validated)
    (resolves : (resolveDefaultTarget project expander settings globals).outcome = .ok entry)
    (detects : settings.detectCycles = true)
    (expand : ∀ target ∈ project.targets, ∀ field, Expands expander field target) :
    ∃ graph : CallGraph, graph.Edge = Calls expander project.targets ∧
      ∀ cycle, (assemble expander settings globals project).outcome = .error (.cyclic cycle) ↔
        graph.findCycle? = some cycle := by
  have distinct := validated.nodup_declaredNames
  obtain ⟨producers, built⟩ := Producers.exists_ofTargets fun target declared =>
    ⟨expand target declared .before, expand target declared .after⟩
  obtain ⟨graph, drawn⟩ := CallGraph.exists_ofTargets distinct built
    fun target declared => expand target declared .dependsOn
  exact ⟨graph, CallGraph.edge_eq_calls distinct built drawn,
    fun _ => assemble_eq_cyclic_iff resolves detects built drawn⟩

theorem exists_cyclic_iff (validated : project.Validated)
    (resolves : (resolveDefaultTarget project expander settings globals).outcome = .ok entry)
    (detects : settings.detectCycles = true)
    (expand : ∀ target ∈ project.targets, ∀ field, Expands expander field target) :
    (∃ cycle, (assemble expander settings globals project).outcome = .error (.cyclic cycle)) ↔
      ∃ name, TransGen (Calls expander project.targets) name name := by
  obtain ⟨graph, edges, refused⟩ := exists_graph_of_expands validated resolves detects expand
  simp only [refused, ← edges]
  rw [← Option.isSome_iff_exists, Option.isSome_iff_ne_none, Ne,
    CallGraph.findCycle?_eq_none_iff]
  simp

/-- Asked to look for cycles, the compiler refuses a project exactly when its
declared order has one. The cycle that it reports comes back to its first name,
and each name in it calls the next. Two projects that differ only in references
to names that no target has are both refused or both not. -/
theorem refused_iff_declared_cycle (validated : project.Validated)
    (resolves : (resolveDefaultTarget project expander settings globals).outcome = .ok entry)
    (detects : settings.detectCycles = true)
    (expand : ∀ target ∈ project.targets, ∀ field, Expands expander field target) :
    ((∃ cycle, (assemble expander settings globals project).outcome = .error (.cyclic cycle)) ↔
      ∃ name, TransGen (Calls expander project.targets) name name) ∧
    (∀ cycle, (assemble expander settings globals project).outcome = .error (.cyclic cycle) →
      (∃ name middle, cycle = name :: (middle ++ [name])) ∧
        cycle.IsChain (Calls expander project.targets)) ∧
    ∀ (otherExpander : Expander) (otherProject : Project) (otherEntry : String),
      otherProject.Validated →
      (resolveDefaultTarget otherProject otherExpander settings globals).outcome =
        .ok otherEntry →
      (∀ target ∈ otherProject.targets, ∀ field, Expands otherExpander field target) →
      AgreeOnDeclared expander project.targets otherExpander otherProject.targets →
      ((∃ cycle, (assemble otherExpander settings globals otherProject).outcome =
          .error (.cyclic cycle)) ↔
        ∃ cycle, (assemble expander settings globals project).outcome =
          .error (.cyclic cycle)) := by
  refine ⟨exists_cyclic_iff validated resolves detects expand, ?_, ?_⟩
  · intro cycle failed
    obtain ⟨graph, edges, refused⟩ := exists_graph_of_expands validated resolves detects expand
    obtain ⟨⟨name, middle, closed, _⟩, calls⟩ :=
      CallGraph.isCycle_of_findCycle? ((refused cycle).mp failed)
    rw [edges] at calls
    exact ⟨⟨name, middle, closed⟩, calls⟩
  · intro otherExpander otherProject otherEntry otherValidated otherResolves otherExpand agree
    rw [exists_cyclic_iff otherValidated otherResolves detects otherExpand,
      exists_cyclic_iff validated resolves detects expand, agree.calls_eq]

/-- Two targets that call each other, one by a dependency and one by a request
to run before. -/
def mutualProject : Project where
  targets := [
    { name := "Build", dependsOnTargets := "Check; Missing", beforeTargets := "Check" },
    { name := "Check" }]
  defaultTargets := some "Build"

/-- A document that is read as the project. -/
def mutualDocument : Value :=
  .mapping [
    (.text "targets", .list [
      .mapping [(.text "name", .text "Build"),
        (.text "depends_on_targets", .text "Check; Missing"),
        (.text "before_targets", .text "Check")],
      .mapping [(.text "name", .text "Check")]]),
    (.text "default_targets", .text "Build")]

theorem mutualProject_refused : ∃ cycle,
    (assemble .ok { detectCycles := true } [] mutualProject).outcome =
      .error (.cyclic cycle) := by
  refine (refused_iff_declared_cycle ⟨mutualDocument, rfl⟩ rfl rfl ?_).1.mpr ⟨"Build", ?_⟩
  · intro target _ field _
    exact ⟨_, rfl⟩
  · have build : mutualProject.targets[0] ∈ mutualProject.targets := List.getElem_mem _
    have check : mutualProject.targets[1] ∈ mutualProject.targets := List.getElem_mem _
    have onward : Calls .ok mutualProject.targets "Build" "Check" :=
      .dependsOn build check (by decide)
    have back : Calls .ok mutualProject.targets "Check" "Build" :=
      .before check build (by decide)
    exact .tail (.single onward) back

end RunOnce.Compile
