import RunOnce.Proofs.Compile.Written
import RunOnce.Proofs.Text.Lines

/-!
# Settings of the layout

Three settings decide how a program is laid out: the size of the indentation, whether
record types are written, and the order of the parameters of tasks. None of them
decides whether a project assembles, and each changes one thing in the text: the spaces
at the beginning of lines, the section of record types, or the order of the arguments
in the calls of tasks and in the comments beside them.
-/

namespace RunOnce.Compile

open RunOnce.Expansion
open RunOnce.Generated
open RunOnce.Journal
open RunOnce.Model
open RunOnce.Ordering
open RunOnce.Text

/-! ## What a setting does not decide -/

section

variable {first second : Settings}

theorem resolveDefaultTarget_congr (project : Project) (expander : Expander)
    (globals : List (String × String))
    (source : second.defaultTargetProperty = first.defaultTargetProperty) :
    resolveDefaultTarget project expander second globals =
      resolveDefaultTarget project expander first globals := by
  simp only [resolveDefaultTarget, defaultTargetList, source]

/-- All stages come out alike when cycles are looked for or not, and when the default
target is looked up in the same place. -/
theorem stagesAgree_of_settings (cycles : second.detectCycles = first.detectCycles)
    (source : second.defaultTargetProperty = first.defaultTargetProperty) (expander : Expander)
    (globals : List (String × String)) (project : Project) :
    StagesAgree expander expander first second globals globals project where
  entry := congrArg Traced.outcome (resolveDefaultTarget_congr project expander globals source)
  producers := rfl
  checks producers := by simp only [checkIfAsked, cycles]
  targets _ := rfl

end

/-! ## The order of arguments -/

mutual

/-- A statement without the comments in it: none if it is a comment. -/
def uncommented : Statement → List Statement
  | .comment _ => []
  | .guarded test body => [.guarded test (uncommentedAll body)]
  | .blank => [.blank]
  | .remark text => [.remark text]
  | .skipWhen test target => [.skipWhen test target]
  | .callOnce target => [.callOnce target]
  | .assign name value => [.assign name value]
  | .invoke task arguments => [.invoke task arguments]
  | .markRun target => [.markRun target]

/-- A sequence of statements without the comments in them. -/
def uncommentedAll : List Statement → List Statement
  | [] => []
  | statement :: rest => uncommented statement ++ uncommentedAll rest

end

theorem uncommentedAll_append (first second : List Statement) :
    uncommentedAll (first ++ second) = uncommentedAll first ++ uncommentedAll second := by
  induction first with
  | nil => rfl
  | cons statement rest ih => simp [uncommentedAll, ih]

/-- Whether a statement is neither a call of a task nor made of other statements. -/
def isSimple : Statement → Bool
  | .invoke _ _ | .guarded _ _ => false
  | .blank | .remark _ | .comment _ | .skipWhen _ _ | .callOnce _ | .assign _ _ | .markRun _ =>
    true

/-- Whether two statements are the same, but that the calls of tasks in the first have
their arguments in the order in which these tasks declare them, and the calls in the
second have the same arguments sorted by name. -/
inductive SortsArguments (expander : Expander) (tasks : List Task) :
    Statement → Statement → Prop
  | call {task : Task} {sorted : List (String × String)} (declared : task ∈ tasks)
      (kept : sorted.Perm (withValues expander task.parameters))
      (inOrder : sorted.Pairwise fun earlier later => earlier.1 ≤ later.1) :
      SortsArguments expander tasks
        (.invoke task.name (withValues expander task.parameters)) (.invoke task.name sorted)
  | guarded (test : String) {first second : List Statement}
      (inside : List.Forall₂ (SortsArguments expander tasks) first second) :
      SortsArguments expander tasks (.guarded test first) (.guarded test second)
  | simple {statement : Statement} (simple : isSimple statement = true) :
      SortsArguments expander tasks statement statement

/-- Whether two sequences of statements are the same, comments left aside, but for the
order of arguments. -/
def SortAlike (expander : Expander) (tasks : List Task) (first second : List Statement) : Prop :=
  List.Forall₂ (SortsArguments expander tasks) (uncommentedAll first) (uncommentedAll second)

section

variable {expander : Expander} {tasks : List Task} {first second : List Statement}

theorem sortAlike_append {moreFirst moreSecond : List Statement}
    (alike : SortAlike expander tasks first second)
    (moreAlike : SortAlike expander tasks moreFirst moreSecond) :
    SortAlike expander tasks (first ++ moreFirst) (second ++ moreSecond) := by
  unfold SortAlike
  rw [uncommentedAll_append, uncommentedAll_append]
  exact List.rel_append alike moreAlike

theorem sortAlike_flatMap {α : Type} {elements : List α} {first second : α → List Statement}
    (alike : ∀ element ∈ elements, SortAlike expander tasks (first element) (second element)) :
    SortAlike expander tasks (elements.flatMap first) (elements.flatMap second) := by
  induction elements with
  | nil => exact List.Forall₂.nil
  | cons element rest ih =>
    obtain ⟨here, later⟩ := List.forall_mem_cons.mp alike
    exact sortAlike_append here (ih later)

/-- A simple statement is like itself. -/
theorem sortAlike_singleton {statement : Statement} (simple : isSimple statement = true) :
    SortAlike expander tasks [statement] [statement] := by
  cases statement with
  | comment text => exact List.Forall₂.nil
  | guarded test body => cases simple
  | invoke task arguments => cases simple
  | _ => exact List.Forall₂.cons (.simple rfl) .nil

/-- Simple statements are like themselves. -/
theorem sortAlike_self {statements : List Statement}
    (simple : ∀ statement ∈ statements, isSimple statement = true) :
    SortAlike expander tasks statements statements := by
  induction statements with
  | nil => exact List.Forall₂.nil
  | cons statement rest ih =>
    obtain ⟨here, later⟩ := List.forall_mem_cons.mp simple
    exact sortAlike_append (sortAlike_singleton here) (ih later)

theorem sortAlike_underCondition (alike : SortAlike expander tasks first second)
    (condition : Option String) :
    SortAlike expander tasks (underCondition expander condition first)
      (underCondition expander condition second) := by
  unfold underCondition
  cases effective condition with
  | none => exact alike
  | some raw =>
    have test : SortAlike expander tasks [.guarded (valueOrRaw expander raw) first]
        [.guarded (valueOrRaw expander raw) second] :=
      List.Forall₂.cons (.guarded _ alike) .nil
    have comment : SortAlike expander tasks [.comment (" if (" ++ raw ++ ")")]
        [.comment (" if (" ++ raw ++ ")")] := sortAlike_singleton rfl
    exact sortAlike_append comment test

theorem sortAlike_callSection (title : String) (names : List String) :
    SortAlike expander tasks (callSection title names) (callSection title names) := by
  apply sortAlike_self
  unfold callSection
  split
  · exact List.forall_mem_nil _
  · intro statement listed
    rcases List.mem_cons.mp listed with rfl | call
    · rfl
    · obtain ⟨name, _, rfl⟩ := List.mem_map.mp call
      rfl

theorem nameOrder_eq_true_iff {first second : String × String} :
    nameOrder first second = true ↔ first.1 ≤ second.1 := by
  simp only [nameOrder, Bool.not_eq_true', decide_eq_false_iff_not, String.not_lt]

/-- Sorting parameters keeps them all, and puts their names in order. -/
theorem sortsArguments_arrange {task : Task} (declared : task ∈ tasks) :
    SortsArguments expander tasks
      (.invoke task.name (withValues expander (arrange .declared task.parameters)))
      (.invoke task.name (withValues expander (arrange .sorted task.parameters))) := by
  refine .call declared ((List.mergeSort_perm _ _).map _) ?_
  have ordered : (task.parameters.mergeSort nameOrder).Pairwise
      fun earlier later => nameOrder earlier later = true := by
    apply List.pairwise_mergeSort
    · intro a b c
      simp only [nameOrder_eq_true_iff]
      exact String.le_trans
    · intro a b
      simp only [Bool.or_eq_true, nameOrder_eq_true_iff]
      exact String.le_total a.1 b.1
  rw [withValues, arrange, List.pairwise_map]
  exact ordered.imp nameOrder_eq_true_iff.mp

theorem sortAlike_writtenTask {task : Task} (declared : task ∈ tasks) :
    SortAlike expander tasks (writtenTask expander .declared task)
      (writtenTask expander .sorted task) := by
  -- The comment on the raw parameters is left aside, whether it is written or not.
  have comments : ∀ parameters : Parameters,
      uncommentedAll (if parameters.differs then
        [.comment (invocationText task.name parameters.raw)] else []) = [] := by
    intro parameters
    split <;> rfl
  have call : SortAlike expander tasks
      [.invoke task.name (withValues expander (arrange .declared task.parameters))]
      [.invoke task.name (withValues expander (arrange .sorted task.parameters))] :=
    List.Forall₂.cons (sortsArguments_arrange declared) .nil
  unfold writtenTask SortAlike
  simp only [uncommentedAll_append, comments]
  exact sortAlike_underCondition call task.condition

theorem sortAlike_writtenChild {target : Target} {child : Child}
    (inBody : child ∈ target.children) :
    SortAlike expander target.tasks (writtenChild expander .declared child)
      (writtenChild expander .sorted child) := by
  cases child with
  | group group =>
    apply sortAlike_underCondition
    apply sortAlike_flatMap
    intro assignment _
    apply sortAlike_underCondition
    apply sortAlike_self
    simp [isSimple]
  | task task => exact sortAlike_writtenTask (List.mem_filterMap.mpr ⟨_, inBody, rfl⟩)

/-- Only the order of arguments tells the two procedures of a target apart. -/
theorem sortAlike_written (producers : Producers) (target : Target) :
    SortAlike expander target.tasks (written ⟨expander, producers, .declared⟩ target).body
      (written ⟨expander, producers, .sorted⟩ target).body := by
  have skip : ∀ statement ∈ writtenSkip expander target, isSimple statement = true := by
    unfold writtenSkip
    split <;> simp [isSimple]
  have blank : ∀ statement ∈ (if target.tasks.isEmpty then [] else [Statement.blank]),
      isSimple statement = true := by
    split <;> simp [isSimple]
  unfold written
  repeat' apply sortAlike_append
  · exact sortAlike_self skip
  · exact sortAlike_callSection _ _
  · exact sortAlike_callSection _ _
  · exact sortAlike_singleton rfl
  · exact sortAlike_flatMap fun child inBody => sortAlike_writtenChild inBody
  · exact sortAlike_self blank
  · exact sortAlike_callSection _ _
  · exact sortAlike_singleton rfl

end

/-! ## The section of record types -/

/-- The text of record types. -/
def recordsText (size : Nat) (schemas : List ItemSchema) : String :=
  renderLines size (schemas.flatMap recordLines)

/-- A text with record types is the text without them, and their section in it. -/
theorem exists_text_around_records (size : Nat) (program : Program) :
    ∃ before after, ∀ schemas,
      { program with records := schemas : Program }.text size =
        before ++ recordsText size schemas ++ after := by
  refine ⟨renderLines size (program.flagLines ++ program.initializerLines ++ [⟨0, ""⟩]),
    renderLines size (program.procedures.flatMap Procedure.lines ++ [program.entryLine]), ?_⟩
  intro schemas
  simp only [Program.text, Program.lines, recordsText, renderLines_append, String.append_assoc]
  rfl

/-! ## Layouts of a project -/

/-- Under settings that look for cycles or do not, and that look up the default target
in the same place, a project fails in the same way, or gives programs with the same
targets and the same default target. If the settings differ in the size of the
indentation, the two texts have the same lines once leading spaces are removed. If one
of them leaves out record types, its text is the other text without their section. If
one keeps the order in which parameters are declared and the other sorts them, the two
programs have the same declarations and the same statements, comments left aside, but
that each call of a task has its arguments in order of declaration in the one, and the
same arguments sorted by name in the other. -/
theorem layout_settings_change_layout {first second : Settings}
    (cycles : second.detectCycles = first.detectCycles)
    (source : second.defaultTargetProperty = first.defaultTargetProperty)
    (expander : Expander) (globals : List (String × String)) (project : Project) :
    (∀ failure, (assemble expander second globals project).outcome = .error failure ↔
      (assemble expander first globals project).outcome = .error failure) ∧
    ∀ compiled, (assemble expander first globals project).outcome = .ok compiled →
      ∃ other, (assemble expander second globals project).outcome = .ok other ∧
        other.targets = compiled.targets ∧ other.defaultTarget = compiled.defaultTarget ∧
        (second.emitItemSchemas = first.emitItemSchemas →
          second.parameterOrder = first.parameterOrder →
          unindented other.text.toList = unindented compiled.text.toList) ∧
        (second.indentSize = first.indentSize →
          second.parameterOrder = first.parameterOrder →
          first.emitItemSchemas = true → second.emitItemSchemas = false →
          ∃ before after,
            compiled.text =
              before ++ recordsText first.indentSize project.itemSchemas ++ after ∧
            other.text = before ++ after) ∧
        (second.indentSize = first.indentSize →
          second.emitItemSchemas = first.emitItemSchemas →
          first.parameterOrder = .declared → second.parameterOrder = .sorted →
          compiled.text = compiled.program.text first.indentSize ∧
          other.text = other.program.text first.indentSize ∧
          other.program =
            { compiled.program with procedures := other.program.procedures } ∧
          List.Forall₂ (fun declared sorted => sorted.target = declared.target ∧
              ∃ target ∈ project.targets, target.name = declared.target ∧
                SortAlike expander target.tasks declared.body sorted.body)
            compiled.program.procedures other.program.procedures) := by
  have agree := stagesAgree_of_settings cycles source expander globals project
  refine ⟨agree.error_iff, ?_⟩
  intro compiled assembled
  obtain ⟨producers, entry, rfl, assembledOther⟩ := agree.exists_programs assembled
  refine ⟨_, assembledOther, rfl, rfl, ?_, ?_, ?_⟩
  · intro records order
    simp only [laidOut, programOf, Program.text, records, order, unindented_renderLines]
  · intro size order written unwritten
    obtain ⟨before, after, around⟩ := exists_text_around_records first.indentSize
      (programOf expander first globals project producers entry)
    refine ⟨before, after, ?_, ?_⟩
    · rw [← around project.itemSchemas]
      simp only [laidOut, programOf, written, if_true]
    · have empty := around []
      simp only [recordsText, List.flatMap_nil, renderLines, List.map_nil, String.join_nil,
        String.append_empty] at empty
      rw [← empty]
      simp only [laidOut, programOf, size, order, unwritten]
      rfl
  · intro size records declared sorted
    refine ⟨rfl, ?_, ?_, ?_⟩
    · rw [← size]
      rfl
    · simp only [laidOut, programOf, records]
    · simp only [laidOut, programOf, declared, sorted]
      apply List.forall₂_map_left_iff.mpr
      apply List.forall₂_map_right_iff.mpr
      apply List.forall₂_same.mpr
      intro target listed
      exact ⟨rfl, target, listed, rfl, sortAlike_written producers target⟩

/-- A project with a record type, and with a task under a condition whose parameters are
not declared in the order of their names. One of their values spans lines. -/
def decoratedProject : Project where
  itemSchemas := [{ itemType := "File", metadata := [{ name := "Kind", evaluatedValue := "x" }] }]
  targets := [{ name := "Build", children := [.task {
    name := "Copy", condition := some "ready",
    parameters := [("To", "bin"), ("From", "src\n  lib")] }] }]
  defaultTargets := some "Build"

/-- Settings that keep the order in which parameters are declared. -/
def keptOrder : Settings where
  parameterOrder := .declared

theorem decoratedProject_layouts :
    ∃ compiled narrow bare sorted,
      (assemble .ok keptOrder [] decoratedProject).outcome = .ok compiled ∧
      (assemble .ok { keptOrder with indentSize := 2 } [] decoratedProject).outcome =
        .ok narrow ∧
      (assemble .ok { keptOrder with emitItemSchemas := false } [] decoratedProject).outcome =
        .ok bare ∧
      (assemble .ok {} [] decoratedProject).outcome = .ok sorted ∧
      unindented narrow.text.toList = unindented compiled.text.toList ∧
      (∃ before after,
        compiled.text = before ++ recordsText 4 decoratedProject.itemSchemas ++ after ∧
        bare.text = before ++ after) ∧
      List.Forall₂ (fun declared sorted => sorted.target = declared.target ∧
          ∃ target ∈ decoratedProject.targets, target.name = declared.target ∧
            SortAlike .ok target.tasks declared.body sorted.body)
        compiled.program.procedures sorted.program.procedures := by
  obtain ⟨compiled, assembled⟩ : ∃ compiled,
      (assemble .ok keptOrder [] decoratedProject).outcome = .ok compiled :=
    exists_eq_ok_of_isOk (by decide)
  obtain ⟨narrow, assembledNarrow, _, _, sameLines, _⟩ :=
    (@layout_settings_change_layout keptOrder { keptOrder with indentSize := 2 } rfl rfl .ok []
      decoratedProject).2 compiled assembled
  obtain ⟨bare, assembledBare, _, _, _, withoutRecords, _⟩ :=
    (@layout_settings_change_layout keptOrder { keptOrder with emitItemSchemas := false } rfl
      rfl .ok [] decoratedProject).2 compiled assembled
  obtain ⟨sorted, assembledSorted, _, _, _, _, calls⟩ :=
    (@layout_settings_change_layout keptOrder {} rfl rfl .ok [] decoratedProject).2
      compiled assembled
  exact ⟨compiled, narrow, bare, sorted, assembled, assembledNarrow, assembledBare,
    assembledSorted, sameLines rfl rfl, withoutRecords rfl rfl rfl rfl,
    (calls rfl rfl rfl rfl).2.2.2⟩

end RunOnce.Compile
