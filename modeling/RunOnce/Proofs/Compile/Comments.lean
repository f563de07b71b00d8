import RunOnce.Proofs.Compile.Written
import RunOnce.Proofs.Text.Comment

/-!
# Raw texts in comments

A procedure shows in comments what its body was before values were expanded: the conditions
of groups, assignments and tasks, the assignments, and the task calls that come out
differently. The raw texts and the names in them may be anything. Each comment is still one
token of the procedure's text.
-/

namespace RunOnce.Compile

open RunOnce.Expansion
open RunOnce.Generated
open RunOnce.Model
open RunOnce.Text
open RunOnce.Text.Comment (OneToken oneToken_encode)

/-! ## Comments of statements -/

/-- Whether a text is shown in a comment, under any tests. -/
def Shows (statements : List Statement) (text : String) : Prop :=
  ∃ leaf ∈ leavesOfAll statements, leaf.statement = .comment text

section

variable {text : String}

theorem not_shows_nil : ¬Shows [] text := by
  rintro ⟨leaf, listed, _⟩
  cases listed

theorem shows_append {first second : List Statement} :
    Shows (first ++ second) text ↔ Shows first text ∨ Shows second text := by
  simp only [Shows, leavesOfAll_append, List.mem_append, or_and_right, exists_or]

theorem shows_flatMap {α : Type} {elements : List α} {written : α → List Statement} :
    Shows (elements.flatMap written) text ↔
      ∃ element ∈ elements, Shows (written element) text := by
  induction elements with
  | nil => simp [not_shows_nil]
  | cons element rest ih => simp [shows_append, ih]

theorem shows_comment_cons {shown : String} {rest : List Statement} :
    Shows (.comment shown :: rest) text ↔ text = shown ∨ Shows rest text := by
  simp [Shows, leavesOfAll, leavesOf, eq_comm]

theorem shows_guarded {test : String} {body : List Statement} :
    Shows [.guarded test body] text ↔ Shows body text := by
  simp [Shows, leavesOfAll, leavesOf, Leaf.within]

/-- A text that is shown stands in a comment on the lines of the statements. -/
theorem exists_line_of_shows {statements : List Statement} (shows : Shows statements text)
    (level : Nat) :
    ∃ line ∈ Statement.linesOfAll level statements, line.text = Comment.encode text := by
  obtain ⟨leaf, listed, comment⟩ := shows
  have own : ⟨level + leaf.tests.length, Comment.encode text⟩ ∈ leaf.lines level := by
    rw [Leaf.lines, comment]
    exact List.mem_singleton_self _
  have among := (lines_leavesOfAll_sublist level statements).subset
    (List.mem_flatMap.mpr ⟨leaf, listed, own⟩)
  exact ⟨_, among, rfl⟩

end

/-! ## Comments of a target -/

/-- The raw texts that a target's procedure shows. -/
inductive Echoes (context : Context) (target : Target) : String → Prop
  /-- The condition of a group. -/
  | groupCondition {group : PropertyGroup} {raw : String}
      (declared : .group group ∈ target.children) (given : effective group.condition = some raw) :
      Echoes context target (" if (" ++ raw ++ ")")
  /-- The condition of an assignment. -/
  | assignmentCondition {group : PropertyGroup} {assignment : Assignment} {raw : String}
      (declared : .group group ∈ target.children) (listed : assignment ∈ group.assignments)
      (given : effective assignment.condition = some raw) :
      Echoes context target (" if (" ++ raw ++ ")")
  /-- An assignment. -/
  | assignment {group : PropertyGroup} {assignment : Assignment}
      (declared : .group group ∈ target.children) (listed : assignment ∈ group.assignments) :
      Echoes context target (assignmentText assignment.name assignment.value)
  /-- The condition of a task. -/
  | taskCondition {task : Task} {raw : String}
      (declared : .task task ∈ target.children) (given : effective task.condition = some raw) :
      Echoes context target (" if (" ++ raw ++ ")")
  /-- The call of a task, where its parameters do not stay as they are. -/
  | task {task : Task} {parameters : List (String × String)}
      (declared : .task task ∈ target.children)
      (arranged : parameters = arrange context.parameterOrder task.parameters)
      (differs : argumentsText parameters ≠
        argumentsText (withValues context.expander parameters)) :
      Echoes context target (invocationText task.name parameters)

section

variable {text : String}

theorem shows_underCondition {expander : Expander} {condition : Option String}
    {statements : List Statement} :
    Shows (underCondition expander condition statements) text ↔
      (∃ raw, effective condition = some raw ∧ text = " if (" ++ raw ++ ")") ∨
        Shows statements text := by
  unfold underCondition
  cases effective condition with
  | none => simp
  | some raw => simp [shows_comment_cons, shows_guarded]

theorem shows_writtenAssignment {expander : Expander} {assignment : Assignment} :
    Shows (writtenAssignment expander assignment) text ↔
      (∃ raw, effective assignment.condition = some raw ∧ text = " if (" ++ raw ++ ")") ∨
        text = assignmentText assignment.name assignment.value := by
  have acts (value : String) : ¬Shows [.assign assignment.name value] text := by
    simp [Shows, leavesOfAll, leavesOf]
  rw [writtenAssignment, shows_underCondition, shows_comment_cons]
  simp only [acts, or_false]

theorem shows_writtenTask {expander : Expander} {order : ParameterOrder} {task : Task} :
    Shows (writtenTask expander order task) text ↔
      (argumentsText (arrange order task.parameters) ≠
          argumentsText (withValues expander (arrange order task.parameters)) ∧
        text = invocationText task.name (arrange order task.parameters)) ∨
      ∃ raw, effective task.condition = some raw ∧ text = " if (" ++ raw ++ ")" := by
  have acts (values : List (String × String)) : ¬Shows [.invoke task.name values] text := by
    simp [Shows, leavesOfAll, leavesOf]
  rw [writtenTask, shows_append, shows_underCondition]
  simp only [acts, or_false, Parameters.differs, bne_iff_ne]
  split
  · rename_i differs
    simp [shows_comment_cons, not_shows_nil, differs]
  · rename_i same
    simp [not_shows_nil, same]

/-- A procedure shows the raw texts of its target's body and nothing else. -/
theorem shows_written_iff {context : Context} {target : Target} :
    Shows (written context target).body text ↔ Echoes context target text := by
  obtain ⟨before, after, leaves, frame⟩ := exists_leaves_written context target
  -- There are no comments in the frame.
  have body : Shows (written context target).body text ↔
      Shows (target.children.flatMap (writtenChild context.expander context.parameterOrder))
        text := by
    constructor
    · rintro ⟨leaf, listed, comment⟩
      rw [leaves, List.append_assoc, List.mem_append, List.mem_append] at listed
      rcases listed with around | inside | around
      · have framed := frame leaf (List.mem_append_left _ around)
        rw [comment] at framed
        cases framed
      · exact ⟨leaf, inside, comment⟩
      · have framed := frame leaf (List.mem_append_right _ around)
        rw [comment] at framed
        cases framed
    · rintro ⟨leaf, inside, comment⟩
      rw [Shows, leaves]
      exact ⟨leaf, List.mem_append_left _ (List.mem_append_right _ inside), comment⟩
  rw [body, shows_flatMap]
  constructor
  · rintro ⟨child, declared, shows⟩
    cases child with
    | group group =>
      rw [writtenChild, shows_underCondition, shows_flatMap] at shows
      rcases shows with ⟨raw, given, rfl⟩ | ⟨assignment, listed, shows⟩
      · exact .groupCondition declared given
      · rcases shows_writtenAssignment.mp shows with ⟨raw, given, rfl⟩ | rfl
        · exact .assignmentCondition declared listed given
        · exact .assignment declared listed
    | task task =>
      rcases shows_writtenTask.mp shows with ⟨differs, rfl⟩ | ⟨raw, given, rfl⟩
      · exact .task declared rfl differs
      · exact .taskCondition declared given
  · intro echoes
    cases echoes with
    | groupCondition declared given =>
      exact ⟨_, declared, shows_underCondition.mpr (.inl ⟨_, given, rfl⟩)⟩
    | assignmentCondition declared listed given =>
      refine ⟨_, declared, shows_underCondition.mpr (.inr ?_)⟩
      exact shows_flatMap.mpr ⟨_, listed, shows_writtenAssignment.mpr (.inl ⟨_, given, rfl⟩)⟩
    | assignment declared listed =>
      refine ⟨_, declared, shows_underCondition.mpr (.inr ?_)⟩
      exact shows_flatMap.mpr ⟨_, listed, shows_writtenAssignment.mpr (.inr rfl)⟩
    | taskCondition declared given =>
      exact ⟨_, declared, shows_writtenTask.mpr (.inr ⟨_, given, rfl⟩)⟩
    | task declared arranged differs =>
      subst arranged
      exact ⟨_, declared, shows_writtenTask.mpr (.inl ⟨differs, rfl⟩)⟩

end

/-- What a procedure shows in comments are the raw texts of its target's body. Each of them
stands in the procedure's text as a comment, and whatever the raw text is, the comment ends
with its first terminator. -/
theorem echoes_are_tokens {context : Context} {target : Target} {result : Procedure}
    (compiled : (procedure context target).outcome = .ok result) (size : Nat) (text : String) :
    (Shows result.body text ↔ Echoes context target text) ∧
    (Shows result.body text →
      OneToken (Comment.encode text).toList ∧
      ∃ opening closing,
        result.text size = opening ++ Comment.encode text ++ closing) := by
  obtain ⟨_, rfl⟩ := procedure_eq_ok_iff.mp compiled
  refine ⟨shows_written_iff, ?_⟩
  intro shows
  refine ⟨oneToken_encode text, ?_⟩
  obtain ⟨line, inBody, same⟩ := exists_line_of_shows shows 1
  have inProcedure : line ∈ (written context target).lines := by
    simp [Procedure.lines, inBody]
  rw [← same]
  exact exists_text_of_line inProcedure size

/-- A group and a task with raw texts that end comments, or would do so at a seam. -/
def starredGroup : PropertyGroup where
  condition := some "'$(Files)' == '/**/'"
  assignments := [{ name := "Exclude", value := "**/*", condition := some "*/*" }]

def starredTask : Task where
  name := "/Copy"
  parameters := [("*", "$(Files)/*")]

def starredTarget : Target where
  name := "Build"
  children := [.group starredGroup, .task starredTask]

def filesContext : Context where
  expander := (PropertyTable.mk [("Files", "src")]).expand
  producers := {}
  parameterOrder := .declared

/-- A terminator in the condition is broken up, and the seams of the call make none. -/
theorem starredTarget_comments :
    ∃ result, (procedure filesContext starredTarget).outcome = .ok result ∧
      (OneToken "/* if ('$(Files)' == '/**\\/')*/".toList ∧
        ∃ opening closing,
          result.text 4 = opening ++ "/* if ('$(Files)' == '/**\\/')*/" ++ closing) ∧
      (OneToken "/*/Copy(*: \"$(Files)/*\");*/".toList ∧
        ∃ opening closing,
          result.text 4 = opening ++ "/*/Copy(*: \"$(Files)/*\");*/" ++ closing) := by
  have compiled : (procedure filesContext starredTarget).outcome =
      .ok (written filesContext starredTarget) :=
    procedure_eq_ok_iff.mpr ⟨targetFailures_eq_nil_iff.mp (by decide), rfl⟩
  have group : .group starredGroup ∈ starredTarget.children := by decide
  have task : .task starredTask ∈ starredTarget.children := by decide
  have differs : argumentsText starredTask.parameters ≠
      argumentsText (withValues filesContext.expander starredTask.parameters) := by decide +kernel
  refine ⟨_, compiled, ?_, ?_⟩
  · obtain ⟨echo, shown⟩ := echoes_are_tokens compiled 4 " if ('$(Files)' == '/**/')"
    exact shown (echo.mpr (.groupCondition group rfl))
  · obtain ⟨echo, shown⟩ := echoes_are_tokens compiled 4 "/Copy(*: \"$(Files)/*\");"
    exact shown (echo.mpr (.task task rfl differs))

end RunOnce.Compile
