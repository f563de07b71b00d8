import RunOnce.Proofs.Compile.Written

/-!
# Bodies of targets

The body of a target says what is to be done, and under which conditions. Its procedure does
that, in the same order: an assignment if the condition of its group and its own condition
hold or are blank, a task call if its condition holds or is blank, and nothing else. On the
lines of the procedure each of them stands in a block for each of its conditions, and each
block is closed at the level at which it was opened.
-/

namespace RunOnce.Compile

open RunOnce.Execution
open RunOnce.Expansion
open RunOnce.Generated
open RunOnce.Model
open RunOnce.Ordering
open RunOnce.Text

/-! ## What is to be done -/

/-- How the conditions of one element of a body come out: its own, and those of its
assignments by their positions. -/
structure Answers where
  own : Bool
  assignments : Nat → Bool

instance : Nonempty Answers :=
  ⟨⟨false, fun _ => false⟩⟩

/-- Whether a condition that comes out like this lets pass: it does if it is blank. -/
def passes (condition : Option String) (holds : Bool) : Bool :=
  (effective condition).isNone || holds

/-- The call of a task, with the values of its parameters. -/
def taskCall (expander : Expander) (order : ParameterOrder) (task : Task) : Action :=
  .invoke task.name (withValues expander (arrange order task.parameters))

/-- The assignment of a value. -/
def valueAssignment (expander : Expander) (assignment : Assignment) : Action :=
  .assign assignment.name (valueOrRaw expander assignment.value)

/-- What is to be done for an element of a body. -/
def dueOf (expander : Expander) (order : ParameterOrder) (answers : Answers) :
    Child → List Action
  | .group group =>
    inTurn (fun holds assignment =>
        if passes group.condition answers.own && passes assignment.condition holds then
          [valueAssignment expander assignment]
        else [])
      group.assignments answers.assignments
  | .task task =>
    if passes task.condition answers.own then [taskCall expander order task] else []

/-- What is to be done for a body, when the conditions of each of its elements come out as
the answers at its position say. -/
def dueActions (expander : Expander) (order : ParameterOrder) (children : List Child)
    (answers : Nat → Answers) : List Action :=
  inTurn (dueOf expander order) children answers

/-! ## What happens -/

section

variable {expander : Expander} {order : ParameterOrder} {valuation : Valuation}
  {target : String}

/-- What happens under a condition. -/
def conditionCourse (expander : Expander) (target : String) (condition : Option String)
    (holds : Bool) (inside : List Occurrence) : List Occurrence :=
  match effective condition with
  | none => inside
  | some raw => .tested target (valueOrRaw expander raw) holds :: if holds then inside else []

/-- What happens for an assignment. -/
def assignmentCourse (expander : Expander) (target : String) (holds : Bool)
    (assignment : Assignment) : List Occurrence :=
  conditionCourse expander target assignment.condition holds
    [.acted target (valueAssignment expander assignment)]

/-- What happens for an element of a body. -/
def childCourse (expander : Expander) (order : ParameterOrder) (target : String)
    (answers : Answers) : Child → List Occurrence
  | .group group =>
    conditionCourse expander target group.condition answers.own
      (inTurn (assignmentCourse expander target) group.assignments answers.assignments)
  | .task task =>
    conditionCourse expander target task.condition answers.own
      [.acted target (taskCall expander order task)]

/-- What happens for the body of a target, when the conditions of each of its elements come
out as the answers at its position say. -/
def bodyCourse (expander : Expander) (order : ParameterOrder) (target : Target)
    (answers : Nat → Answers) : List Occurrence :=
  inTurn (childCourse expander order target.name) target.children answers

theorem hasCourses_underCondition {ι : Type} [Nonempty ι] {statements : List Statement}
    {course : ι → List Occurrence} (condition : Option String)
    (courses : HasCourses valuation target statements course) :
    HasCourses valuation target (underCondition expander condition statements)
      fun answers : Bool × ι =>
        conditionCourse expander target condition answers.1 (course answers.2) := by
  unfold underCondition conditionCourse
  cases effective condition with
  | none => exact courses.reindex Prod.snd fun answers => ⟨(true, answers), rfl⟩
  | some raw => exact (courses.guarded (valueOrRaw expander raw)).comment _

theorem hasCourses_writtenAssignment (assignment : Assignment) :
    HasCourses valuation target (writtenAssignment expander assignment) fun holds : Bool =>
      assignmentCourse expander target holds assignment := by
  have acts : HasCourses valuation target
      [.assign assignment.name (valueOrRaw expander assignment.value)] fun _ : Unit =>
        [.acted target (valueAssignment expander assignment)] :=
    .acted (valueAssignment expander assignment)
  exact (hasCourses_underCondition assignment.condition (acts.comment _)).reindex (·, ())
    fun answers => ⟨answers.1, rfl⟩

theorem hasCourses_writtenTask (task : Task) :
    HasCourses valuation target (writtenTask expander order task) fun holds : Bool =>
      conditionCourse expander target task.condition holds
        [.acted target (taskCall expander order task)] := by
  have acts : HasCourses valuation target
      [.invoke task.name (withValues expander (arrange order task.parameters))] fun _ : Unit =>
        [.acted target (taskCall expander order task)] :=
    .acted (taskCall expander order task)
  have calls : HasCourses valuation target
      (underCondition expander task.condition
        [.invoke task.name (withValues expander (arrange order task.parameters))])
      fun holds : Bool => conditionCourse expander target task.condition holds
        [.acted target (taskCall expander order task)] :=
    (hasCourses_underCondition task.condition acts).reindex (·, ())
      fun answers => ⟨answers.1, rfl⟩
  simp only [writtenTask]
  split
  · exact calls.comment _
  · exact calls

theorem hasCourses_writtenChild (child : Child) :
    HasCourses valuation target (writtenChild expander order child) fun answers =>
      childCourse expander order target answers child := by
  cases child with
  | group group =>
    exact (hasCourses_underCondition group.condition
      (.flatMap hasCourses_writtenAssignment group.assignments)).reindex
        (fun answers : Answers => (answers.own, answers.assignments))
        fun answers => ⟨⟨answers.1, answers.2⟩, rfl⟩
  | task task =>
    exact (hasCourses_writtenTask task).reindex Answers.own
      fun holds => ⟨⟨holds, fun _ => holds⟩, rfl⟩

end

/-- A skip condition that holds is the end of it; else what follows is done. -/
theorem course_writtenSkip_append_iff {expander : Expander} {target : Target}
    {valuation : Valuation} {rest : List Statement} {occurrences : List Occurrence} :
    Course valuation target.name (writtenSkip expander target ++ rest) occurrences ↔
      (Skips valuation target ∧ occurrences = [.marked target.name]) ∨
        ¬Skips valuation target ∧ Course valuation target.name rest occurrences := by
  unfold writtenSkip Skips
  cases effective target.condition with
  | none => simp
  | some raw =>
    constructor
    · rintro (_ | _ | later)
      cases later with
      | skip skips => exact .inl ⟨⟨rfl, skips⟩, rfl⟩
      | keep runs later => exact .inr ⟨by simp [runs], later⟩
    · rintro (⟨⟨_, skips⟩, rfl⟩ | ⟨runs, later⟩)
      · exact .remark (.skip skips)
      · have runs : valuation.skips target.name = false := by simpa using runs
        exact .remark (.keep runs later)

/-- What a procedure does: it is skipped, or it makes its early calls, does what its body says,
makes its late calls and marks its target as run. -/
theorem course_written_iff {context : Context} {target : Target} {valuation : Valuation}
    {occurrences : List Occurrence} :
    Course valuation target.name (written context target).body occurrences ↔
      (Skips valuation target ∧ occurrences = [.marked target.name]) ∨
      ¬Skips valuation target ∧ ∃ answers : Nat → Answers, occurrences =
        (listed context.expander .dependsOn target ++
          context.producers.before target.name).map (.attempted target.name) ++
        bodyCourse context.expander context.parameterOrder target answers ++
        (context.producers.after target.name).map (.attempted target.name) ++
        [.marked target.name] := by
  have calls := hasCourses_callSection valuation target.name
  have space : HasCourses valuation target.name [.blank] fun _ : Unit => [] := .blank .nil
  have gap : HasCourses valuation target.name (if target.tasks.isEmpty then [] else [.blank])
      fun _ : Unit => [] := by
    split
    · exact .nil
    · exact space
  have body : HasCourses valuation target.name
      (target.children.flatMap (writtenChild context.expander context.parameterOrder))
      (bodyCourse context.expander context.parameterOrder target) :=
    .flatMap hasCourses_writtenChild target.children
  have mark : HasCourses valuation target.name [.markRun target.name] fun _ : Unit =>
      [.marked target.name] :=
    .marked target.name
  have whole := (calls "DependsOnTargets" (listed context.expander .dependsOn target)).append
    ((calls "BeforeTargets" (context.producers.before target.name)).append (space.append
      (body.append (gap.append
        ((calls "AfterTargets" (context.producers.after target.name)).append mark)))))
  simp only [written, List.append_assoc]
  rw [course_writtenSkip_append_iff, whole.course_iff]
  simp

/-! ## What happens is what is to be done -/

section

variable {expander : Expander} {order : ParameterOrder}

theorem filterMap_conditionCourse (target : String) (condition : Option String) (holds : Bool)
    (inside : List Occurrence) :
    (conditionCourse expander target condition holds inside).filterMap Occurrence.action? =
      if passes condition holds then inside.filterMap Occurrence.action? else [] := by
  unfold conditionCourse passes
  cases effective condition with
  | none => rfl
  | some raw => cases holds <;> rfl

theorem filterMap_childCourse (target : String) (answers : Answers) (child : Child) :
    (childCourse expander order target answers child).filterMap Occurrence.action? =
      dueOf expander order answers child := by
  cases child with
  | task task => exact filterMap_conditionCourse target task.condition answers.own _
  | group group =>
    simp only [childCourse, dueOf, filterMap_conditionCourse, filterMap_inTurn, assignmentCourse]
    cases passes group.condition answers.own with
    | true => rfl
    | false => simp

/-- The actions of a body are those that are to be done. -/
theorem filterMap_bodyCourse (target : Target) (answers : Nat → Answers) :
    (bodyCourse expander order target answers).filterMap Occurrence.action? =
      dueActions expander order target.children answers := by
  rw [bodyCourse, filterMap_inTurn, dueActions]
  simp only [filterMap_childCourse]

end

/-! ## What is written down -/

/-- The action of a leaf that has one, with the tests of the blocks around it. -/
def guardedAction? (leaf : Leaf) : Option (List String × Action) :=
  match leaf.statement with
  | .assign name value => some (leaf.tests, .assign name value)
  | .invoke task arguments => some (leaf.tests, .invoke task arguments)
  | _ => none

/-- The actions that statements write down, each with the tests of the blocks around it. -/
def guardedActions (statements : List Statement) : List (List String × Action) :=
  (leavesOfAll statements).filterMap guardedAction?

/-- The test of a condition, if there is one. -/
def testsOf (expander : Expander) (condition : Option String) : List String :=
  ((effective condition).map (valueOrRaw expander)).toList

/-- The actions of an element of a body, each with the tests of its conditions, the
outermost first. -/
def guardedActionsOf (expander : Expander) (order : ParameterOrder) :
    Child → List (List String × Action)
  | .group group => group.assignments.map fun assignment =>
      (testsOf expander group.condition ++ testsOf expander assignment.condition,
        valueAssignment expander assignment)
  | .task task => [(testsOf expander task.condition, taskCall expander order task)]

theorem guardedAction?_within (test : String) (leaf : Leaf) :
    guardedAction? (leaf.within test) =
      (guardedAction? leaf).map fun action => (test :: action.1, action.2) := by
  obtain ⟨tests, statement⟩ := leaf
  cases statement <;> rfl

theorem guardedActions_guarded (test : String) (body : List Statement) :
    guardedActions [.guarded test body] =
      (guardedActions body).map fun action => (test :: action.1, action.2) := by
  simp only [guardedActions, leavesOfAll, leavesOf, List.append_nil, List.filterMap_map,
    Function.comp_def, guardedAction?_within, List.map_filterMap]

theorem guardedActions_append (first second : List Statement) :
    guardedActions (first ++ second) = guardedActions first ++ guardedActions second := by
  rw [guardedActions, leavesOfAll_append, List.filterMap_append]
  rfl

theorem guardedActions_flatMap {α : Type} (elements : List α)
    (writtenOf : α → List Statement) :
    guardedActions (elements.flatMap writtenOf) =
      elements.flatMap fun element => guardedActions (writtenOf element) := by
  induction elements with
  | nil => rfl
  | cons element rest ih => rw [List.flatMap_cons, guardedActions_append, ih, List.flatMap_cons]

section

variable {expander : Expander} {order : ParameterOrder}

theorem guardedActions_underCondition (condition : Option String)
    (statements : List Statement) :
    guardedActions (underCondition expander condition statements) =
      (guardedActions statements).map fun action =>
        (testsOf expander condition ++ action.1, action.2) := by
  unfold underCondition testsOf
  cases effective condition with
  | none => simp
  | some raw => exact guardedActions_guarded (valueOrRaw expander raw) statements

theorem guardedActions_writtenChild (child : Child) :
    guardedActions (writtenChild expander order child) =
      guardedActionsOf expander order child := by
  cases child with
  | group group =>
    have assignments : ∀ assignment : Assignment,
        guardedActions (writtenAssignment expander assignment) =
          [(testsOf expander assignment.condition, valueAssignment expander assignment)] := by
      intro assignment
      have acts : guardedActions [.comment (assignmentText assignment.name assignment.value),
          .assign assignment.name (valueOrRaw expander assignment.value)] =
            [([], valueAssignment expander assignment)] := rfl
      simp only [writtenAssignment, guardedActions_underCondition, acts, List.map_singleton,
        List.append_nil]
    simp only [writtenChild, guardedActions_underCondition, guardedActions_flatMap, assignments,
      ← List.map_eq_flatMap, List.map_map, guardedActionsOf]
    rfl
  | task task =>
    have call : guardedActions (underCondition expander task.condition
        [.invoke task.name (withValues expander (arrange order task.parameters))]) =
          [(testsOf expander task.condition, taskCall expander order task)] := by
      have acts : guardedActions
          [.invoke task.name (withValues expander (arrange order task.parameters))] =
            [([], taskCall expander order task)] := rfl
      simp only [guardedActions_underCondition, acts, List.map_singleton, List.append_nil]
    simp only [writtenChild, writtenTask, guardedActions_append, call, guardedActionsOf]
    split <;> rfl

end

/-- A procedure writes down what its target's body says, and no other action. -/
theorem guardedActions_written (context : Context) (target : Target) :
    guardedActions (written context target).body =
      target.children.flatMap (guardedActionsOf context.expander context.parameterOrder) := by
  obtain ⟨before, after, leaves, frame⟩ := exists_leaves_written context target
  have body := guardedActions_flatMap target.children
    (writtenChild context.expander context.parameterOrder)
  simp only [guardedActions_writtenChild] at body
  -- There are no actions in the frame.
  have acts : ∀ leaf ∈ before ++ after, guardedAction? leaf = none := by
    rintro ⟨tests, statement⟩ around
    have framed := frame _ around
    cases statement <;> first | rfl | cases framed
  obtain ⟨actsBefore, actsAfter⟩ := List.forall_mem_append.mp acts
  rw [guardedActions, leaves, List.filterMap_append, List.filterMap_append,
    List.filterMap_eq_nil_iff.mpr actsBefore, List.filterMap_eq_nil_iff.mpr actsAfter,
    List.nil_append, List.append_nil]
  exact body

/-! ## Lines of actions -/

/-- Where an action stands on the lines of a procedure: in the blocks of its tests. -/
def actionPlace (action : List String × Action) : List String × Line :=
  (action.1.map guardLine, ⟨1 + action.1.length, actionText action.2⟩)

theorem placed_of_guardedAction {leaf : Leaf} {action : List String × Action}
    (acts : guardedAction? leaf = some action) : leaf.placed 1 = [actionPlace action] := by
  obtain ⟨tests, statement⟩ := leaf
  cases statement <;> cases acts <;> rfl

/-- On the lines of a procedure its actions stand in the blocks of their tests. -/
theorem closed_actions (procedure : Procedure) :
    Closed procedure.lines ((guardedActions procedure.body).map fun action =>
      (("void " ++ procedure.target ++ "()") :: (actionPlace action).1,
        (actionPlace action).2)) := by
  have among : ∀ leaves : List Leaf, ((leaves.filterMap guardedAction?).map actionPlace).Sublist
      (leaves.flatMap (Leaf.placed 1)) := by
    intro leaves
    induction leaves with
    | nil => exact List.Sublist.refl _
    | cons leaf rest ih =>
      rw [List.flatMap_cons]
      cases acts : guardedAction? leaf with
      | none =>
        rw [List.filterMap_cons_none acts]
        exact ih.trans (List.sublist_append_right _ _)
      | some action =>
        rw [List.filterMap_cons_some acts, List.map_cons, placed_of_guardedAction acts]
        exact ih.cons_cons _
  have placed := (among (leavesOfAll procedure.body)).map fun place =>
    (("void " ++ procedure.target ++ "()") :: place.1, place.2)
  rw [List.map_map] at placed
  exact (closed_procedure procedure).weaken placed

/-! ## Faithful translation -/

/-- The values of a task's parameters are in its call, once for each parameter. -/
theorem perm_withValues_arrange (expander : Expander) (order : ParameterOrder)
    (parameters : List (String × String)) :
    (withValues expander (arrange order parameters)).Perm (withValues expander parameters) := by
  apply List.Perm.map
  cases order with
  | sorted => exact List.mergeSort_perm parameters nameOrder
  | declared => exact List.Perm.refl parameters

/-- Whether a procedure does what the body of its target says. -/
structure Translates (context : Context) (target : Target) (procedure : Procedure) : Prop where
  /-- The procedure is skipped, or it does what its body says between its early and its late
  calls. There is one such course for each way the conditions may come out, and no other. -/
  courses (valuation : Valuation) (occurrences : List Occurrence) :
    Course valuation target.name procedure.body occurrences ↔
      (Skips valuation target ∧ occurrences = [.marked target.name]) ∨
      ¬Skips valuation target ∧ ∃ answers : Nat → Answers, occurrences =
        (listed context.expander .dependsOn target ++
          context.producers.before target.name).map (.attempted target.name) ++
        bodyCourse context.expander context.parameterOrder target answers ++
        (context.producers.after target.name).map (.attempted target.name) ++
        [.marked target.name]
  /-- On each of these courses the body performs the actions that are due, in order. -/
  performed (answers : Nat → Answers) :
    (bodyCourse context.expander context.parameterOrder target answers).filterMap
        Occurrence.action? =
      dueActions context.expander context.parameterOrder target.children answers
  /-- Each action is written down once, under the tests of its conditions. -/
  guarded : guardedActions procedure.body =
    target.children.flatMap (guardedActionsOf context.expander context.parameterOrder)
  /-- The call of a task has one argument for each of its parameters. -/
  arguments (task : Task) :
    (withValues context.expander (arrange context.parameterOrder task.parameters)).Perm
      (withValues context.expander task.parameters)
  /-- The lines of the procedure are read as blocks that are all closed, each at the level at
  which it was opened. The actions stand in the blocks of their tests, one level deeper for
  each of them. -/
  lines : ∃ reading, (BlockReading.mk "" [] []).all procedure.lines = some reading ∧
    reading.opened = [] ∧
    ((guardedActions procedure.body).map fun action =>
      (("void " ++ target.name ++ "()") :: (actionPlace action).1,
        (actionPlace action).2)).Sublist reading.lines

/-- The procedure of a target translates its body. However the conditions come out, it
performs each assignment whose group's condition and whose own condition are blank or hold,
and each task call whose condition is blank or holds, in the order of their declaration, and
nothing else. Each condition is tested with its value or else its raw text, each value is
written as the literal of its own value or else of its raw text, and the tests of a group are
around those of its assignments. -/
theorem body_is_translated {context : Context} {target : Target} {result : Procedure}
    (compiled : (procedure context target).outcome = .ok result) :
    Translates context target result := by
  obtain ⟨_, rfl⟩ := procedure_eq_ok_iff.mp compiled
  refine ⟨fun _ _ => course_written_iff, filterMap_bodyCourse target,
    guardedActions_written context target, fun task => perm_withValues_arrange _ _ _, ?_⟩
  obtain ⟨latest, lines, read, placed⟩ :=
    closed_actions (written context target) (BlockReading.mk "" [] [])
  rw [List.map_map] at placed
  exact ⟨_, read, rfl, placed⟩

/-- A target with a condition inside a condition, a value that does not expand and a blank
condition. -/
def nestedTarget : Target where
  name := "Build"
  children := [
    .group {
      condition := some "'$(Configuration)' == 'Debug'"
      assignments := [
        { name := "Optimize", value := "$(Off)" },
        { name := "Symbols", value := "full", condition := some "'$(Symbols)' == ''" }] },
    .task {
      name := "Message", condition := some " "
      parameters := [("Text", "$(Configuration)"), ("Importance", "high")] }]

def debugContext : Context where
  expander := (PropertyTable.mk [("Configuration", "Debug")]).expand
  producers := {}
  parameterOrder := .declared

/-- The condition of the group holds, the one inside it does not, and the task is called
without a test. -/
theorem nestedTarget_course :
    ∃ result, (procedure debugContext nestedTarget).outcome = .ok result ∧
      ∀ valuation, Course valuation "Build" result.body
        [.tested "Build" "'Debug' == 'Debug'" true,
          .acted "Build" (.assign "Optimize" "$(Off)"),
          .tested "Build" "'$(Symbols)' == ''" false,
          .acted "Build" (.invoke "Message" [("Text", "Debug"), ("Importance", "high")]),
          .marked "Build"] := by
  have compiled : (procedure debugContext nestedTarget).outcome =
      .ok (written debugContext nestedTarget) :=
    procedure_eq_ok_iff.mpr ⟨targetFailures_eq_nil_iff.mp (by decide), rfl⟩
  refine ⟨_, compiled, ?_⟩
  intro valuation
  have runs : ¬Skips valuation nestedTarget := by
    rintro ⟨present, _⟩
    cases present
  apply ((body_is_translated compiled).courses valuation _).mpr
  exact .inr ⟨runs, fun _ => ⟨true, fun _ => false⟩, by decide +kernel⟩

end RunOnce.Compile
