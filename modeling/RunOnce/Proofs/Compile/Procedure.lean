import RunOnce.Compile.Procedure
import RunOnce.Proofs.Execution.Segments
import RunOnce.Proofs.Ordering.Requests

/-!
# How procedures are written

The body of a target always compiles, and to statements that make no calls and
set no flags. So a compiled procedure does one of two things: if its target has
a skip condition that holds, it sets the flag; if not, it reaches the calls ahead
of the body, goes through the body, reaches the calls after it and sets the flag.
-/

namespace RunOnce.Compile

open RunOnce.Execution
open RunOnce.Expansion
open RunOnce.Generated
open RunOnce.Journal
open RunOnce.Model
open RunOnce.Ordering

/-! ## Bodies -/

/-- Whether a computation gives statements of a body, without fail. -/
def GivesPlain {ε : Type} (computation : Traced ε (List Statement)) : Prop :=
  ∃ statements, computation.outcome = .ok statements ∧ arePlain statements = true

variable {ε : Type}

/-- A computation that succeeds may come first. -/
theorem givesPlain_bind {α : Type} {first : Traced ε α} {next : α → Traced ε (List Statement)}
    {value : α} (succeeds : first.outcome = .ok value) (plain : GivesPlain (next value)) :
    GivesPlain (first >>= next) := by
  obtain ⟨statements, compiled, plain⟩ := plain
  exact ⟨statements, (Traced.outcome_bind_of_ok succeeds).trans compiled, plain⟩

theorem givesPlain_conditioned (expander : Expander) (condition : Option String)
    {body : Traced ε (List Statement)} (plain : GivesPlain body) :
    GivesPlain (conditioned expander condition body) := by
  unfold conditioned
  split
  · exact plain
  · rename_i raw _
    obtain ⟨statements, compiled, plain⟩ := plain
    apply givesPlain_bind (outcome_expandOrRaw expander raw)
    apply givesPlain_bind compiled
    refine ⟨_, rfl, ?_⟩
    simp [arePlain, isPlain, plain]

/-- Two parts of a body make a body. -/
theorem givesPlain_append {first second : Traced ε (List Statement)} (plainFirst : GivesPlain first)
    (plainSecond : GivesPlain second) :
    GivesPlain (do
      let front ← first
      let back ← second
      pure (front ++ back)) := by
  obtain ⟨front, compiledFront, plainFront⟩ := plainFirst
  obtain ⟨back, compiledBack, plainBack⟩ := plainSecond
  apply givesPlain_bind compiledFront
  apply givesPlain_bind compiledBack
  refine ⟨front ++ back, rfl, ?_⟩
  rw [arePlain_append, plainFront, plainBack]
  rfl

theorem givesPlain_assignmentStatements (expander : Expander) (assignment : Assignment) :
    GivesPlain (assignmentStatements expander assignment : Traced ε _) := by
  apply givesPlain_conditioned
  apply givesPlain_bind (outcome_expandOrRaw expander assignment.value)
  exact ⟨_, rfl, rfl⟩

theorem givesPlain_assignmentsStatements (expander : Expander) (assignments : List Assignment) :
    GivesPlain (assignmentsStatements expander assignments : Traced ε _) := by
  induction assignments with
  | nil => exact ⟨[], rfl, rfl⟩
  | cons assignment rest ih =>
    exact givesPlain_append (givesPlain_assignmentStatements expander assignment) ih

/-- Each parameter takes its value, or keeps its raw text. -/
theorem outcome_expandParameters (expander : Expander) (parameters : List (String × String)) :
    (expandParameters expander parameters : Traced ε _).outcome =
      .ok (parameters.map fun parameter => (parameter.1, valueOrRaw expander parameter.2)) := by
  induction parameters with
  | nil => rfl
  | cons parameter rest ih =>
    simp [expandParameters, Traced.outcome_bind_eq_ok_iff, ih]

theorem givesPlain_taskStatements (expander : Expander) (order : ParameterOrder) (task : Task) :
    GivesPlain (taskStatements expander order task : Traced ε _) := by
  apply givesPlain_bind (Traced.outcome_bind_eq_ok_iff.mpr
    ⟨_, outcome_expandParameters expander (arrange order task.parameters), rfl⟩)
  obtain ⟨call, compiled, plain⟩ : GivesPlain (conditioned expander task.condition
      (pure [.invoke task.name _]) : Traced ε _) :=
    givesPlain_conditioned expander task.condition ⟨_, rfl, rfl⟩
  apply givesPlain_bind compiled
  refine ⟨_, rfl, ?_⟩
  rw [arePlain_append, plain]
  split <;> rfl

theorem givesPlain_bodyStatements (expander : Expander) (order : ParameterOrder)
    (children : List Child) : GivesPlain (bodyStatements expander order children : Traced ε _) := by
  induction children with
  | nil => exact ⟨[], rfl, rfl⟩
  | cons child rest ih =>
    refine givesPlain_append ?_ ih
    cases child with
    | group group =>
      exact givesPlain_conditioned expander group.condition
        (givesPlain_assignmentsStatements expander group.assignments)
    | task task => exact givesPlain_taskStatements expander order task

/-! ## Skip conditions -/

/-- Whether a target has a skip condition that holds. -/
def Skips (valuation : Valuation) (target : Target) : Prop :=
  (effective target.condition).isSome = true ∧ valuation.skips target.name = true

instance (valuation : Valuation) (target : Target) : Decidable (Skips valuation target) :=
  inferInstanceAs (Decidable (_ ∧ _))

/-- Only a skip condition that does not expand makes no statements. -/
theorem skipStatements_eq_error {expander : Expander} {target : Target} {failure : Failure}
    (failed : (skipStatements expander target).outcome = .error failure) :
    ∃ field raw reason, failure = .controlFlow target.name field raw reason := by
  unfold skipStatements at failed
  split at failed
  · cases failed
  · rename_i raw _
    cases expanded : expander raw with
    | ok test => simp [expanded] at failed
    | error reason =>
      simp only [expanded, Failure.outcome_throw, Except.error.injEq] at failed
      exact ⟨_, _, _, failed.symm⟩

/-- The statements of a skip condition set the flag if the condition holds, and
do nothing if not. -/
theorem course_of_skipStatements {expander : Expander} {target : Target}
    {skip rest : List Statement} (compiled : (skipStatements expander target).outcome = .ok skip)
    {valuation : Valuation} {occurrences : List Occurrence}
    (course : Course valuation target.name (skip ++ rest) occurrences) :
    (Skips valuation target ∧ occurrences = [.marked target.name]) ∨
      ¬Skips valuation target ∧ Course valuation target.name rest occurrences := by
  unfold skipStatements at compiled
  split at compiled
  · rename_i absent
    cases compiled
    exact .inr ⟨by simp [Skips, absent], course⟩
  · rename_i raw present
    cases expanded : expander raw with
    | error reason => simp [expanded] at compiled
    | ok test =>
      simp only [expanded, Traced.outcome_pure, Except.ok.injEq] at compiled
      subst compiled
      cases course with
      | remark later =>
        cases later with
        | skip skips => exact .inl ⟨⟨by simp [present], skips⟩, rfl⟩
        | keep runs later => exact .inr ⟨by simp [Skips, runs], later⟩

/-! ## Procedures -/

/-- How a procedure is written that compiles. -/
theorem procedure_eq_ok {context : Context} {target : Target} {result : Procedure}
    (compiled : (procedure context target).outcome = .ok result) :
    Expands context.expander .dependsOn target ∧ ∃ skip body,
      (skipStatements context.expander target).outcome = .ok skip ∧ arePlain body = true ∧
      result = ⟨target.name,
        skip ++
        callSection "DependsOnTargets" (listed context.expander .dependsOn target) ++
        callSection "BeforeTargets" (context.producers.before target.name) ++
        [.blank] ++
        body ++
        (if target.tasks.isEmpty then [] else [.blank]) ++
        callSection "AfterTargets" (context.producers.after target.name) ++
        [.markRun target.name]⟩ := by
  unfold procedure at compiled
  obtain ⟨skip, compiledSkip, compiled⟩ := Traced.outcome_bind_eq_ok_iff.mp compiled
  obtain ⟨depends, read, compiled⟩ := Traced.outcome_bind_eq_ok_iff.mp compiled
  obtain ⟨body, compiledBody, compiled⟩ := Traced.outcome_bind_eq_ok_iff.mp compiled
  obtain ⟨_, _, compiled⟩ := Traced.outcome_bind_eq_ok_iff.mp compiled
  cases compiled
  obtain ⟨expands, rfl⟩ := dependencies_eq_ok_iff.mp read
  obtain ⟨statements, same, plain⟩ :
      GivesPlain (bodyStatements context.expander context.parameterOrder target.children :
        Traced Failure _) :=
    givesPlain_bodyStatements context.expander context.parameterOrder target.children
  rw [compiledBody] at same
  cases same
  exact ⟨expands, skip, body, compiledSkip, plain, rfl⟩

/-- A section of calls reaches each of them in turn. -/
theorem hasCourses_callSection (valuation : Valuation) (target title : String)
    (names : List String) :
    HasCourses valuation target (callSection title names) fun _ : Unit =>
      names.map (.attempted target) := by
  unfold callSection
  split
  · rename_i none
    cases List.isEmpty_iff.mp none
    exact .nil
  · exact .remark (.calls names) _

/-- What a compiled procedure does. -/
theorem course_of_procedure {context : Context} {target : Target} {result : Procedure}
    (compiled : (procedure context target).outcome = .ok result) {valuation : Valuation}
    {occurrences : List Occurrence}
    (course : Course valuation target.name result.body occurrences) :
    (Skips valuation target ∧ occurrences = [.marked target.name]) ∨
      ¬Skips valuation target ∧ ∃ middle,
        (∀ occurrence ∈ middle, occurrence.InBody target.name) ∧
        (middle.filterMap Occurrence.action?).Sublist (actionsOfAll result.body) ∧
        occurrences =
          (listed context.expander .dependsOn target ++
            context.producers.before target.name).map (.attempted target.name) ++ middle ++
          (context.producers.after target.name).map (.attempted target.name) ++
          [.marked target.name] := by
  obtain ⟨_, skip, body, compiledSkip, plain, rfl⟩ := procedure_eq_ok compiled
  -- The blank lines around the body belong to it.
  generalize segmentEq : [.blank] ++ body ++ (if target.tasks.isEmpty then [] else [.blank]) =
    segment
  have plainSegment : arePlain segment = true := by
    subst segmentEq
    rw [arePlain_append, arePlain_append, plain]
    split <;> rfl
  have layout : ∀ dependsOn before after : List Statement,
      skip ++ dependsOn ++ before ++ [.blank] ++ body ++
          (if target.tasks.isEmpty then [] else [.blank]) ++ after ++ [.markRun target.name] =
        skip ++ (dependsOn ++ (before ++ (segment ++ (after ++ [.markRun target.name])))) := by
    intro dependsOn before after
    subst segmentEq
    simp only [List.append_assoc]
  simp only [layout] at course ⊢
  rcases course_of_skipStatements compiledSkip course with ⟨skips, marked⟩ | ⟨runs, fromDepends⟩
  · exact .inl ⟨skips, marked⟩
  · obtain ⟨_, _, rfl, fromBefore⟩ := (hasCourses_callSection _ _ _ _ _ _).mp fromDepends
    obtain ⟨_, _, rfl, fromBody⟩ := (hasCourses_callSection _ _ _ _ _ _).mp fromBefore
    obtain ⟨middle, _, rfl, fromAfter, inBody, written⟩ :=
      fromBody.exists_of_plain_append plainSegment
    obtain ⟨_, _, rfl, fromMark⟩ := (hasCourses_callSection _ _ _ _ _ _).mp fromAfter
    refine .inr ⟨runs, middle, inBody, ?_, ?_⟩
    · simp only [actionsOfAll_append]
      apply written.trans
      apply List.sublist_append_of_sublist_right
      apply List.sublist_append_of_sublist_right
      apply List.sublist_append_of_sublist_right
      exact List.sublist_append_left _ _
    · cases fromMark with
      | mark last =>
        cases last
        simp

/-- Only a value that decides calls and does not expand makes a procedure fail. -/
theorem procedure_eq_error {context : Context} {target : Target} {failure : Failure}
    (failed : (procedure context target).outcome = .error failure) :
    ∃ field raw reason, failure = .controlFlow target.name field raw reason := by
  unfold procedure at failed
  rcases Traced.outcome_bind_eq_error_iff.mp failed with failed | ⟨skip, _, failed⟩
  · exact skipStatements_eq_error failed
  rcases Traced.outcome_bind_eq_error_iff.mp failed with failed | ⟨depends, _, failed⟩
  · exact dependencies_eq_error failed
  obtain ⟨body, compiled, _⟩ :
      GivesPlain (bodyStatements context.expander context.parameterOrder target.children :
        Traced Failure _) :=
    givesPlain_bodyStatements context.expander context.parameterOrder target.children
  rcases Traced.outcome_bind_eq_error_iff.mp failed with failed | ⟨body, _, failed⟩
  · rw [compiled] at failed
    cases failed
  · cases failed

/-- Targets compile in turn. -/
theorem outcome_procedures (context : Context) (targets : List Target) :
    (procedures context targets).outcome =
      targets.mapM fun target => (procedure context target).outcome := by
  induction targets with
  | nil => rfl
  | cons target rest ih =>
    rw [procedures, Traced.outcome_bind, List.mapM_cons, ← ih]
    cases (procedure context target).outcome with
    | error failure => rfl
    | ok first =>
      show (procedures context rest >>= fun others => pure (first :: others)).outcome = _
      rw [Traced.outcome_bind]
      rfl

theorem procedures_eq_error {context : Context} {targets : List Target} {failure : Failure}
    (failed : (procedures context targets).outcome = .error failure) :
    ∃ target field raw reason, failure = .controlFlow target field raw reason := by
  rw [outcome_procedures] at failed
  obtain ⟨_, target, _, _, _, failed⟩ := exceptMapM_eq_error_iff.mp failed
  exact ⟨target.name, procedure_eq_error failed⟩

/-- Targets compile exactly when each of them does. -/
theorem procedures_eq_ok_iff {context : Context} {targets : List Target}
    {results : List Procedure} :
    (procedures context targets).outcome = .ok results ↔
      List.Forall₂ (fun target result => (procedure context target).outcome = .ok result)
        targets results := by
  rw [outcome_procedures]
  exact exceptMapM_eq_ok_iff

/-- The procedure of each target is among those that are compiled. -/
theorem exists_procedure_of_mem {context : Context} {targets : List Target}
    {results : List Procedure} (compiled : (procedures context targets).outcome = .ok results)
    {target : Target} (declared : target ∈ targets) :
    ∃ result ∈ results, (procedure context target).outcome = .ok result := by
  have pairs := procedures_eq_ok_iff.mp compiled
  clear compiled
  induction pairs with
  | nil => cases declared
  | cons compiledFirst _ ih =>
    rcases List.mem_cons.mp declared with rfl | later
    · exact ⟨_, List.mem_cons_self, compiledFirst⟩
    · obtain ⟨result, among, compiledThere⟩ := ih later
      exact ⟨result, List.mem_cons_of_mem _ among, compiledThere⟩

/-- Procedures that compile are those of the targets, in order. -/
theorem procedures_eq_ok {context : Context} {targets : List Target} {results : List Procedure}
    (compiled : (procedures context targets).outcome = .ok results) :
    results.map Procedure.target = declaredNames targets ∧
      (∀ target ∈ targets, Expands context.expander .dependsOn target) ∧
      ∀ result ∈ results, ∃ target ∈ targets, target.name = result.target ∧
        (procedure context target).outcome = .ok result := by
  have pairs := procedures_eq_ok_iff.mp compiled
  clear compiled
  induction pairs with
  | nil => exact ⟨rfl, by simp, by simp⟩
  | cons compiledFirst _ ih =>
    obtain ⟨names, expand, sources⟩ := ih
    obtain ⟨expands, _, _, _, _, rfl⟩ := procedure_eq_ok compiledFirst
    refine ⟨?_, List.forall_mem_cons.mpr ⟨expands, expand⟩, ?_⟩
    · simp [names, declaredNames]
    · intro result listed
      rcases List.mem_cons.mp listed with rfl | later
      · exact ⟨_, List.mem_cons_self, rfl, compiledFirst⟩
      · obtain ⟨source, declared, same, compiledThere⟩ := sources result later
        exact ⟨source, List.mem_cons_of_mem _ declared, same, compiledThere⟩

end RunOnce.Compile
