import RunOnce.Generated.Basic
import RunOnce.Proofs.Text.Lines
import RunOnce.Proofs.Text.Writing

/-!
# Programs printed by a writer

A writer prints a statement under a test by working in a block of its own, and the blocks of
a procedure by such work inside other such work. What it has printed then are the lines of
the statement at the level at which the writer stood, so the text of a program is the text of
a writer: the procedures are printed one by one, each by a writer of its own, and taken over
as blocks.
-/

namespace RunOnce.Generated

open RunOnce.Model
open RunOnce.Text
open RunOnce.Text.Writer

/-! ## Work that prints lines -/

/-- Whether work does not fail and, on a writer that stands at a level, adds just these lines
to the text. -/
def Prints (size level : Nat) (work : List Work) (lines : List Line) : Prop :=
  ∃ history, Work.courseOfAll work = ⟨history, .completed⟩ ∧
    ∀ text, (Writer.mk size level text).run history =
      ⟨size, level, text ++ renderLines size lines⟩

namespace Prints

variable {size level : Nat}

theorem nil : Prints size level [] [] :=
  ⟨[], by rw [Work.courseOfAll], fun text => by simp [run, renderLines]⟩

theorem append {first second : List Work} {front back : List Line}
    (printsFront : Prints size level first front) (printsBack : Prints size level second back) :
    Prints size level (first ++ second) (front ++ back) := by
  obtain ⟨done, firstCourse, added⟩ := printsFront
  obtain ⟨later, secondCourse, addedLater⟩ := printsBack
  refine ⟨done ++ later, by rw [Work.courseOfAll_append firstCourse, secondCourse], ?_⟩
  intro text
  rw [run_append, added, addedLater, renderLines_append, String.append_assoc]

/-- One line, at the level of the writer. -/
theorem line (text : String) : Prints size level [.line text] [⟨level, text⟩] := by
  refine ⟨[.line text], Work.courseOfAll_singleton (by rw [Work.course]), fun before => ?_⟩
  simp [run, apply, levelAfter, appended, renderLines]

/-- Lines that are rendered already are taken over at any level. -/
theorem block (lines : List Line) :
    Prints size level [.block (renderLines size lines)] lines := by
  refine ⟨[.block (renderLines size lines)],
    Work.courseOfAll_singleton (by rw [Work.course]), fun before => ?_⟩
  simp [run, apply, levelAfter, appended]

/-- Work in a block prints its lines one level deeper. -/
theorem indented {body : List Work} {lines : List Line}
    (inside : Prints size (level + 1) body lines) :
    Prints size level [.indented body] lines := by
  obtain ⟨history, course, added⟩ := inside
  refine ⟨.enter :: (history ++ [.leave .completed]),
    Work.courseOfAll_singleton (by rw [Work.course, course]), fun text => ?_⟩
  have entered : (Writer.mk size level text).apply .enter = ⟨size, level + 1, text⟩ := by
    simp [apply, levelAfter, appended]
  calc (Writer.mk size level text).run (.enter :: (history ++ [.leave .completed]))
      = ((Writer.mk size (level + 1) text).run history).run [.leave .completed] := by
        rw [← run_append, ← entered]
        rfl
    _ = ⟨size, level, text ++ renderLines size lines⟩ := by
        rw [added]
        simp [run, apply, levelAfter, appended]

/-- Lines of one level, one after the other. -/
theorem map {α : Type} (text : α → String) (entries : List α) :
    Prints size level (entries.map fun entry => .line (text entry))
      (entries.map fun entry => ⟨level, text entry⟩) := by
  induction entries with
  | nil => exact nil
  | cons entry rest ih => exact (line (text entry)).append ih

/-- What each entry of a list prints, one after the other. -/
theorem flatMap {α : Type} {work : α → List Work} {lines : α → List Line}
    (prints : ∀ entry, Prints size level (work entry) (lines entry)) (entries : List α) :
    Prints size level (entries.flatMap work) (entries.flatMap lines) := by
  induction entries with
  | nil => exact nil
  | cons entry rest ih => exact (prints entry).append ih

end Prints

/-- What a new writer holds after some work. -/
def printed (size : Nat) (work : List Work) : String :=
  ((Writer.ofSize size).run (Work.courseOfAll work).history).text

theorem Prints.printed_eq {size : Nat} {work : List Work} {lines : List Line}
    (prints : Prints size 0 work lines) : printed size work = renderLines size lines := by
  obtain ⟨history, course, added⟩ := prints
  have new : Writer.ofSize size = ⟨size, 0, ""⟩ := rfl
  rw [printed, course, new, added, String.empty_append]

/-! ## Statements -/

/-- Work between braces, under a header and in a block of its own. -/
def braced (header : String) (body : List Work) : List Work :=
  [.line header, .line "\x7b", .indented body, .line "\x7d"]

theorem Prints.braced {size level : Nat} {body : List Work} {lines : List Line}
    (inside : Prints size (level + 1) body lines) (header : String) :
    Prints size level (Generated.braced header body)
      (⟨level, header⟩ :: ⟨level, "\x7b"⟩ :: lines ++ [⟨level, "\x7d"⟩]) :=
  (line header).append ((line "\x7b").append (inside.indented.append (line "\x7d")))

namespace Statement

mutual

/-- The work that prints a statement. The body of a statement under a test is printed in a
block of its own. -/
def work : Statement → List Work
  | blank => [.line ""]
  | remark text => [.line ("// " ++ text)]
  | comment text => [.line (Comment.encode text)]
  | skipWhen test target =>
    [.line ("if (" ++ test ++ ") \x7b " ++ runFlag target ++ " = true; return; \x7d")]
  | callOnce target => [.line (guardedCall target)]
  | assign name value => [.line (assignmentText name value)]
  | invoke task arguments => [.line (invocationText task arguments)]
  | guarded test body => braced ("if (" ++ test ++ ")") (workOfAll body)
  | markRun target => [.line (runFlag target ++ " = true;")]

/-- The work that prints a sequence of statements. -/
def workOfAll : List Statement → List Work
  | [] => []
  | statement :: rest => work statement ++ workOfAll rest

end

mutual

theorem prints_work (size level : Nat) (statement : Statement) :
    Prints size level statement.work (statement.lines level) := by
  cases statement with
  | guarded test body =>
    rw [work, lines]
    exact (prints_workOfAll size (level + 1) body).braced _
  | _ => exact .line _

theorem prints_workOfAll (size level : Nat) (statements : List Statement) :
    Prints size level (workOfAll statements) (linesOfAll level statements) := by
  cases statements with
  | nil => exact .nil
  | cons statement rest =>
    exact (prints_work size level statement).append (prints_workOfAll size level rest)

end

end Statement

/-! ## Programs -/

/-- The work that prints a procedure. -/
def Procedure.work (procedure : Procedure) : List Work :=
  braced ("void " ++ procedure.target ++ "()") (Statement.workOfAll procedure.body) ++ [.line ""]

theorem Procedure.prints_work (size : Nat) (procedure : Procedure) :
    Prints size 0 procedure.work procedure.lines := by
  have whole := ((Statement.prints_workOfAll size 1 procedure.body).braced
    ("void " ++ procedure.target ++ "()")).append (.line "")
  simpa [Procedure.work, Procedure.lines] using whole

/-- The work that prints a record type. -/
def recordWork (schema : ItemSchema) : List Work :=
  braced ("class " ++ schema.itemType)
    (schema.metadata.map fun field => .line ("public string " ++ field.name ++
      " \x7b get; set; \x7d = " ++ Literal.encode field.evaluatedValue ++ ";")) ++ [.line ""]

theorem prints_recordWork (size : Nat) (schema : ItemSchema) :
    Prints size 0 (recordWork schema) (recordLines schema) := by
  have fields : Prints size 1 _ (schema.metadata.map fieldLine) := .map _ schema.metadata
  have whole := (fields.braced ("class " ++ schema.itemType)).append (.line "")
  simpa [recordWork, recordLines] using whole

/-- The work that prints a program. Each procedure is printed by a writer of its own and
taken over as a block. -/
def programWork (size : Nat) (program : Program) : List Work :=
  (program.flags.map fun target => .line ("bool " ++ runFlag target ++ " = false;")) ++
    (program.initializers.map fun initializer =>
      .line ("var " ++ initializer.1 ++ " = " ++ Literal.encode initializer.2 ++ ";")) ++
    [.line ""] ++ program.records.flatMap recordWork ++
    (program.procedures.flatMap fun procedure => [.block (printed size procedure.work)]) ++
    [.line (program.entry ++ "();")]

theorem prints_programWork (size : Nat) (program : Program) :
    Prints size 0 (programWork size program) program.lines := by
  have procedures (procedure : Procedure) :
      Prints size 0 [.block (printed size procedure.work)] procedure.lines := by
    rw [(procedure.prints_work size).printed_eq]
    exact .block procedure.lines
  have flags : Prints size 0 _ program.flagLines := .map _ program.flags
  have initializers : Prints size 0 _ program.initializerLines := .map _ program.initializers
  exact ((((flags.append initializers).append (.line "")).append
    (.flatMap (prints_recordWork size) program.records)).append
    (.flatMap procedures program.procedures)).append (.line (program.entry ++ "();"))

/-- The text of a program is what a writer prints that is used block by block. -/
theorem program_text_eq_printed (size : Nat) (program : Program) :
    program.text size = printed size (programWork size program) :=
  (prints_programWork size program).printed_eq.symm

end RunOnce.Generated
