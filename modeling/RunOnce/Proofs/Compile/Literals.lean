import RunOnce.Proofs.Compile.Assembly
import RunOnce.Proofs.Text.Token

/-!
# Values in the text of a program

A project's values are written into its program as literals: those of properties
and the defaults of fields in declarations, those of assignments and of task
parameters in statements. Each stands in the text with what its line writes
around it, and is read as a token from there. The token ends at the first
delimiter in the value, so what comes after it is read as part of the program.
-/

namespace RunOnce.Compile

open RunOnce.Execution
open RunOnce.Expansion
open RunOnce.Generated
open RunOnce.Journal
open RunOnce.Journal.Traced
open RunOnce.Model
open RunOnce.Text
open RunOnce.Text.Literal

/-! ## Actions of a body -/

/-- Parameters with their values, or their raw texts where there are none. -/
def withValues (expander : Expander) (parameters : List (String × String)) :
    List (String × String) :=
  parameters.map fun parameter => (parameter.1, valueOrRaw expander parameter.2)

/-- The actions of an element of a target's body. -/
def childActions (expander : Expander) (order : ParameterOrder) : Child → List Action
  | .group group => group.assignments.map fun assignment =>
      .assign assignment.name (valueOrRaw expander assignment.value)
  | .task task => [.invoke task.name (withValues expander (arrange order task.parameters))]

section

variable {ε : Type} {expander : Expander} {statements : List Statement}

/-- A condition adds no actions. -/
theorem actionsOfAll_conditioned {condition : Option String} {body : Traced ε (List Statement)}
    (compiled : (conditioned expander condition body).outcome = .ok statements) :
    ∃ inner, body.outcome = .ok inner ∧ actionsOfAll statements = actionsOfAll inner := by
  unfold conditioned at compiled
  split at compiled
  · exact ⟨statements, compiled, rfl⟩
  · obtain ⟨test, _, compiled⟩ := outcome_bind_eq_ok_iff.mp compiled
    obtain ⟨inner, compiledInner, compiled⟩ := outcome_bind_eq_ok_iff.mp compiled
    cases compiled
    exact ⟨inner, compiledInner, by simp [actionsOfAll, actionsOf]⟩

theorem actionsOfAll_assignment {assignment : Assignment}
    (compiled : (assignmentStatements expander assignment : Traced ε _).outcome =
      .ok statements) :
    actionsOfAll statements =
      [.assign assignment.name (valueOrRaw expander assignment.value)] := by
  obtain ⟨inner, compiledInner, same⟩ := actionsOfAll_conditioned compiled
  obtain ⟨value, expanded, compiledInner⟩ := outcome_bind_eq_ok_iff.mp compiledInner
  rw [outcome_expandOrRaw] at expanded
  cases expanded
  cases compiledInner
  rw [same]
  rfl

theorem actionsOfAll_assignments {assignments : List Assignment}
    (compiled : (assignmentsStatements expander assignments : Traced ε _).outcome =
      .ok statements) :
    actionsOfAll statements = assignments.map fun assignment =>
      .assign assignment.name (valueOrRaw expander assignment.value) := by
  induction assignments generalizing statements with
  | nil =>
    cases compiled
    rfl
  | cons assignment rest ih =>
    obtain ⟨first, compiledFirst, compiled⟩ := outcome_bind_eq_ok_iff.mp compiled
    obtain ⟨others, compiledOthers, compiled⟩ := outcome_bind_eq_ok_iff.mp compiled
    cases compiled
    rw [actionsOfAll_append, actionsOfAll_assignment compiledFirst, ih compiledOthers]
    rfl

theorem actionsOfAll_task {order : ParameterOrder} {task : Task}
    (compiled : (taskStatements expander order task : Traced ε _).outcome = .ok statements) :
    actionsOfAll statements =
      [.invoke task.name (withValues expander (arrange order task.parameters))] := by
  obtain ⟨parameters, read, compiled⟩ := outcome_bind_eq_ok_iff.mp compiled
  obtain ⟨expanded, values, read⟩ := outcome_bind_eq_ok_iff.mp read
  rw [outcome_expandParameters] at values
  cases values
  cases read
  obtain ⟨call, compiledCall, compiled⟩ := outcome_bind_eq_ok_iff.mp compiled
  obtain ⟨inner, compiledInner, same⟩ := actionsOfAll_conditioned compiledCall
  cases compiledInner
  cases compiled
  rw [actionsOfAll_append, same]
  split <;> rfl

/-- The actions of a body are those of its elements, in order. -/
theorem actionsOfAll_body {order : ParameterOrder} {children : List Child}
    (compiled : (bodyStatements expander order children : Traced ε _).outcome =
      .ok statements) :
    actionsOfAll statements = children.flatMap (childActions expander order) := by
  induction children generalizing statements with
  | nil =>
    cases compiled
    rfl
  | cons child rest ih =>
    obtain ⟨first, compiledFirst, compiled⟩ := outcome_bind_eq_ok_iff.mp compiled
    obtain ⟨others, compiledOthers, compiled⟩ := outcome_bind_eq_ok_iff.mp compiled
    cases compiled
    rw [actionsOfAll_append, ih compiledOthers, List.flatMap_cons]
    congr 1
    cases child with
    | group group =>
      obtain ⟨inner, compiledInner, same⟩ := actionsOfAll_conditioned compiledFirst
      exact same.trans (actionsOfAll_assignments compiledInner)
    | task task => exact actionsOfAll_task compiledFirst

end

/-- A procedure that compiles acts as its target says. -/
theorem actionsOfAll_procedure {context : Context} {target : Target} {result : Procedure}
    (compiled : (procedure context target).outcome = .ok result) {action : Action}
    (listed : action ∈
      target.children.flatMap (childActions context.expander context.parameterOrder)) :
    action ∈ actionsOfAll result.body := by
  unfold procedure at compiled
  obtain ⟨skip, _, compiled⟩ := outcome_bind_eq_ok_iff.mp compiled
  obtain ⟨depends, _, compiled⟩ := outcome_bind_eq_ok_iff.mp compiled
  obtain ⟨body, compiledBody, compiled⟩ := outcome_bind_eq_ok_iff.mp compiled
  obtain ⟨_, _, compiled⟩ := outcome_bind_eq_ok_iff.mp compiled
  cases compiled
  rw [← actionsOfAll_body compiledBody] at listed
  simp only [actionsOfAll_append, List.mem_append]
  exact .inl (.inl (.inl (.inr listed)))

/-! ## Lines of a program -/

/-- The text of an action. -/
def actionText : Action → String
  | .assign name value => assignmentText name value
  | .invoke task arguments => invocationText task arguments

mutual

/-- Each action of a statement has a line of its own. -/
theorem exists_line_of_action {statement : Statement} {action : Action}
    (listed : action ∈ actionsOf statement) (level : Nat) :
    ∃ line ∈ statement.lines level, line.text = actionText action := by
  cases statement with
  | assign name value =>
    cases List.mem_singleton.mp listed
    exact ⟨_, List.mem_singleton_self _, rfl⟩
  | invoke task arguments =>
    cases List.mem_singleton.mp listed
    exact ⟨_, List.mem_singleton_self _, rfl⟩
  | guarded test body =>
    obtain ⟨line, inner, text⟩ := exists_line_of_actions listed (level + 1)
    refine ⟨line, ?_, text⟩
    simp [Statement.lines, inner]
  | _ => cases listed

theorem exists_line_of_actions {statements : List Statement} {action : Action}
    (listed : action ∈ actionsOfAll statements) (level : Nat) :
    ∃ line ∈ Statement.linesOfAll level statements, line.text = actionText action := by
  cases statements with
  | nil => cases listed
  | cons statement rest =>
    rcases List.mem_append.mp listed with first | later
    · obtain ⟨line, inner, text⟩ := exists_line_of_action first level
      exact ⟨line, List.mem_append_left _ inner, text⟩
    · obtain ⟨line, inner, text⟩ := exists_line_of_actions later level
      exact ⟨line, List.mem_append_right _ inner, text⟩

end

/-- A program has a line for each action of its procedures. -/
theorem exists_programLine_of_action {program : Program} {procedure : Procedure}
    (among : procedure ∈ program.procedures) {action : Action}
    (listed : action ∈ actionsOfAll procedure.body) :
    ∃ line ∈ program.lines, line.text = actionText action := by
  obtain ⟨line, inner, text⟩ := exists_line_of_actions listed 1
  have inProcedure : line ∈ procedure.lines := by simp [Procedure.lines, inner]
  refine ⟨line, ?_, text⟩
  simp only [Program.lines, List.mem_append, List.mem_flatMap]
  exact .inl (.inr ⟨procedure, among, inProcedure⟩)

/-- The text of a program holds the text of each of its lines. -/
theorem exists_text_of_line {lines : List Line} {line : Line} (listed : line ∈ lines)
    (size : Nat) :
    ∃ opening closing, renderLines size lines = opening ++ line.text ++ closing := by
  obtain ⟨earlier, later, rfl⟩ := List.append_of_mem listed
  have rendered : ∃ indent ending, line.render size = indent ++ line.text ++ ending := by
    unfold Line.render
    split
    · rename_i blank
      exact ⟨"\n", "", by simp [blank]⟩
    · exact ⟨_, _, rfl⟩
  obtain ⟨indent, ending, rendered⟩ := rendered
  refine ⟨renderLines size earlier ++ indent, ending ++ renderLines size later, ?_⟩
  simp only [renderLines, List.map_append, List.map_cons, String.join_append, String.join_cons,
    rendered, String.append_assoc]

/-! ## Where values are written -/

/-- What is written before an argument: the arguments ahead of it. -/
def argumentsBefore (earlier : List (String × String)) : String :=
  String.join (earlier.map fun argument =>
    argument.1 ++ ": " ++ Literal.encode argument.2 ++ ", ")

/-- What is written after an argument: the arguments that follow it. -/
def argumentsAfter (later : List (String × String)) : String :=
  String.join (later.map fun argument =>
    ", " ++ argument.1 ++ ": " ++ Literal.encode argument.2)

theorem argumentsText_cons (name value : String) (later : List (String × String)) :
    argumentsText ((name, value) :: later) =
      name ++ ": " ++ Literal.encode value ++ argumentsAfter later := by
  induction later generalizing name value with
  | nil => simp [argumentsText, argumentsAfter]
  | cons next later ih =>
    have following := ih next.1 next.2
    simp only [argumentsText, argumentsAfter, List.map_cons, String.join_cons,
      String.intercalate_cons_cons, String.append_assoc] at following ⊢
    rw [following]

theorem argumentsText_append_cons (earlier : List (String × String)) (name value : String)
    (later : List (String × String)) :
    argumentsText (earlier ++ (name, value) :: later) =
      argumentsBefore earlier ++ name ++ ": " ++ Literal.encode value ++
        argumentsAfter later := by
  induction earlier with
  | nil =>
    rw [List.nil_append, argumentsText_cons]
    simp [argumentsBefore]
  | cons argument earlier ih =>
    have more : (earlier ++ (name, value) :: later).map (fun argument =>
        argument.1 ++ ": " ++ Literal.encode argument.2) ≠ [] := by simp
    rw [argumentsText] at ih
    rw [List.cons_append, argumentsText, List.map_cons,
      String.intercalate_cons_of_ne_nil more, ih]
    simp only [argumentsBefore, List.map_cons, String.join_cons, String.append_assoc]

/-- Where a value of a project is written: what stands before its literal on the
line, the value, and what stands after it. -/
inductive Writes (expander : Expander) (settings : Settings)
    (globals : List (String × String)) (project : Project) : String → String → String → Prop
  /-- The initial value of a property. -/
  | property {property : Property} (emitted : property ∈ project.emittedProperties) :
      Writes expander settings globals project
        ("var " ++ property.name ++ " = ")
        ((overrideOf? globals property.name).getD property.expandedValue) ";"
  /-- The default of a field. -/
  | field {schema : ItemSchema} {field : Metadatum} (asked : settings.emitItemSchemas = true)
      (declared : schema ∈ project.itemSchemas) (listed : field ∈ schema.metadata) :
      Writes expander settings globals project
        ("public string " ++ field.name ++ " \x7b get; set; \x7d = ") field.evaluatedValue ";"
  /-- The value of an assignment. -/
  | assignment {target : Target} {group : PropertyGroup} {assignment : Assignment}
      (declared : target ∈ project.targets) (inBody : .group group ∈ target.children)
      (listed : assignment ∈ group.assignments) :
      Writes expander settings globals project
        (assignment.name ++ " = ") (valueOrRaw expander assignment.value) ";"
  /-- The value of a task parameter. -/
  | parameter {target : Target} {task : Task} {name raw : String}
      {earlier later : List (String × String)} (declared : target ∈ project.targets)
      (inBody : .task task ∈ target.children)
      (arranged : arrange settings.parameterOrder task.parameters =
        earlier ++ (name, raw) :: later) :
      Writes expander settings globals project
        (task.name ++ "(" ++ argumentsBefore (withValues expander earlier) ++ name ++ ": ")
        (valueOrRaw expander raw) (argumentsAfter (withValues expander later) ++ ");")

section

variable {expander : Expander} {settings : Settings} {globals : List (String × String)}
  {project : Project} {compiled : Compiled}

/-- What the target of a project does is written into the program. -/
theorem exists_line_of_childAction
    (assembled : (assemble expander settings globals project).outcome = .ok compiled)
    {target : Target} (declared : target ∈ project.targets) {child : Child}
    (inBody : child ∈ target.children) {action : Action}
    (listed : action ∈ childActions expander settings.parameterOrder child) :
    ∃ line ∈ compiled.program.lines, line.text = actionText action := by
  obtain ⟨producers, _, _, results⟩ := assemble_eq_ok assembled
  obtain ⟨procedure, among, compiledThere⟩ := exists_procedure_of_mem results declared
  exact exists_programLine_of_action among
    (actionsOfAll_procedure compiledThere (List.mem_flatMap.mpr ⟨child, inBody, listed⟩))

/-- Each value of a project stands as a literal on a line of its program. -/
theorem exists_line_of_writes
    (assembled : (assemble expander settings globals project).outcome = .ok compiled)
    {before value after : String} (writes : Writes expander settings globals project
      before value after) :
    ∃ line ∈ compiled.program.lines, line.text = before ++ Literal.encode value ++ after := by
  obtain ⟨initialized, recorded, _⟩ := declarations_assemble assembled
  cases writes with
  | property emitted =>
    refine ⟨⟨0, _⟩, ?_, rfl⟩
    simp only [Program.lines, List.mem_append]
    refine .inl (.inl (.inl (.inl (.inr ?_))))
    rw [Program.initializerLines, initialized, initializers, List.map_map]
    exact List.mem_map_of_mem emitted
  | field asked declared listed =>
    refine ⟨fieldLine _, ?_, rfl⟩
    simp only [Program.lines, List.mem_append]
    refine .inl (.inl (.inr ?_))
    rw [recorded, if_pos asked]
    refine List.mem_flatMap.mpr ⟨_, declared, ?_⟩
    simp only [recordLines, List.cons_append, List.mem_cons, List.mem_append]
    exact .inr (.inr (.inl (List.mem_map_of_mem listed)))
  | assignment declared inBody listed =>
    exact exists_line_of_childAction assembled declared inBody (List.mem_map_of_mem listed)
  | parameter declared inBody arranged =>
    obtain ⟨line, inner, text⟩ :=
      exists_line_of_childAction assembled declared inBody (List.mem_singleton_self _)
    refine ⟨line, inner, ?_⟩
    rw [text, actionText, invocationText, arranged, withValues, List.map_append, List.map_cons,
      argumentsText_append_cons]
    simp only [withValues, String.append_assoc]

theorem exists_text_of_writes
    (assembled : (assemble expander settings globals project).outcome = .ok compiled)
    {before value after : String} (writes : Writes expander settings globals project
      before value after) :
    ∃ opening closing,
      compiled.text = opening ++ before ++ Literal.encode value ++ after ++ closing := by
  obtain ⟨_, _, laidOut⟩ := declarations_assemble assembled
  obtain ⟨line, listed, text⟩ := exists_line_of_writes assembled writes
  obtain ⟨opening, closing, whole⟩ := exists_text_of_line listed settings.indentSize
  refine ⟨opening, closing, ?_⟩
  rw [laidOut, Program.text, whole, text]
  simp only [String.append_assoc]

/-! ## Values as tokens -/

/-- Each value of a project stands as a literal in the text of its program. Read from
its opening delimiter, with a backslash taking the next character along, the literal
is one token exactly if a value within its line holds no quote, and a value that
spans lines neither holds three quotes in a row nor ends with a quote. In any case
the token ends at the first delimiter in the value and the closing delimiter
together, and all that follows there is read as text of the program. -/
theorem literals_end_at_first_delimiter
    (assembled : (assemble expander settings globals project).outcome = .ok compiled)
    {before value after : String} (writes : Writes expander settings globals project
      before value after) :
    ∃ opening closing,
      compiled.text = opening ++ before ++ Literal.encode value ++ after ++ closing ∧
      (readToken (delimiterFor value.toList)
          (Literal.encode value ++ (after ++ closing)).toList =
        some ((Literal.encode value).toList, (after ++ closing).toList) ↔
          StaysInside value.toList) ∧
      ∃ inside outside,
        value.toList ++ delimiterFor value.toList =
          inside ++ (delimiterFor value.toList ++ outside) ∧
        OnlyAtEnd (delimiterFor value.toList) inside ∧
        readToken (delimiterFor value.toList)
            (Literal.encode value ++ (after ++ closing)).toList =
          some (delimiterFor value.toList ++ escape inside ++ delimiterFor value.toList,
            escape outside ++ (after ++ closing).toList) := by
  obtain ⟨opening, closing, text⟩ := exists_text_of_writes assembled writes
  obtain ⟨inside, outside, divided, onlyAtEnd⟩ :=
    exists_first (delimiterFor value.toList) value.toList
  refine ⟨opening, closing, text, ?_, inside, outside, divided, onlyAtEnd, ?_⟩
  · rw [String.toList_append, Literal.encode, String.toList_ofList]
    exact readToken_encodeChars_eq_iff value.toList _
  · rw [String.toList_append, Literal.encode, String.toList_ofList]
    exact readToken_encodeChars divided onlyAtEnd _

end

/-- A value with quotes that stays inside its literal: it spans lines. -/
def spokenValue : String :=
  "He said \"\"hi\"\nfrom C:\\\" twice"

/-- A value that ends its literal and goes on with a statement of its own. -/
def brokenValue : String :=
  "x\"; Delete(); \""

/-- A project with both values. -/
def quotingProject : Project where
  targets := [{ name := "Build" }]
  properties := [
    { name := "Note", expandedValue := brokenValue },
    { name := "Speech", expandedValue := spokenValue },
    { name := "MSBuildProjectDefaultTargets", expandedValue := "Build", isReserved := true }]

theorem exists_compile_quotingProject :
    ∃ compiled, (compile {} [] quotingProject).outcome = .ok compiled := by
  have compiles : (compile {} [] quotingProject).outcome.isOk = true := by decide
  cases ended : (compile {} [] quotingProject).outcome with
  | error failure =>
    rw [ended] at compiles
    cases compiles
  | ok compiled => exact ⟨compiled, rfl⟩

/-- The value that spans lines is read as one token. -/
theorem spokenValue_stays_inside :
    ∃ compiled opening closing, (compile {} [] quotingProject).outcome = .ok compiled ∧
      compiled.text =
        opening ++ "var Speech = " ++ Literal.encode spokenValue ++ ";" ++ closing ∧
      readToken blockDelimiter (Literal.encode spokenValue ++ (";" ++ closing)).toList =
        some ((Literal.encode spokenValue).toList, (";" ++ closing).toList) := by
  obtain ⟨compiled, assembled⟩ := exists_compile_quotingProject
  have writes : Writes (PropertyTable.ofProject quotingProject []).expand {} [] quotingProject
      "var Speech = " spokenValue ";" := by
    have emitted : quotingProject.properties[1] ∈ quotingProject.emittedProperties := by decide
    exact .property emitted
  obtain ⟨opening, closing, text, complete, _⟩ :=
    literals_end_at_first_delimiter assembled writes
  exact ⟨compiled, opening, closing, assembled, text, complete.mpr (by decide)⟩

/-- The other value is not: its token ends after the first letter, and the call that
follows in the value is read as a statement of the program. -/
theorem brokenValue_breaks_out :
    ∃ compiled opening closing, (compile {} [] quotingProject).outcome = .ok compiled ∧
      compiled.text =
        opening ++ "var Note = " ++ Literal.encode brokenValue ++ ";" ++ closing ∧
      readToken lineDelimiter (Literal.encode brokenValue ++ (";" ++ closing)).toList =
        some ("\"x\"".toList, ("; Delete(); \"\";" ++ closing).toList) := by
  obtain ⟨compiled, assembled⟩ := exists_compile_quotingProject
  have writes : Writes (PropertyTable.ofProject quotingProject []).expand {} [] quotingProject
      "var Note = " brokenValue ";" := by
    have emitted : quotingProject.properties[0] ∈ quotingProject.emittedProperties := by decide
    exact .property emitted
  obtain ⟨opening, closing, text⟩ := exists_text_of_writes assembled writes
  refine ⟨compiled, opening, closing, assembled, text, ?_⟩
  have onlyAtEnd : OnlyAtEnd (delimiterFor brokenValue.toList) ['x'] := by
    have single : OnlyAtEnd (quotes 0) ['x'] := onlyAtEnd_quotes_iff.mpr (by decide)
    exact single
  have divided : brokenValue.toList ++ delimiterFor brokenValue.toList =
      ['x'] ++ (delimiterFor brokenValue.toList ++ "; Delete(); \"\"".toList) := by decide
  have read := readToken_encodeChars divided onlyAtEnd (";" ++ closing).toList
  rw [String.toList_append, Literal.encode, String.toList_ofList]
  calc readToken lineDelimiter (encodeChars brokenValue.toList ++ (";" ++ closing).toList)
      = some (_, escape "; Delete(); \"\"".toList ++ (";" ++ closing).toList) := read
    _ = some ("\"x\"".toList, ("; Delete(); \"\";" ++ closing).toList) := by
      simp only [String.toList_append]
      rfl

end RunOnce.Compile
