import RunOnce.Proofs.Compile.Written
import RunOnce.Proofs.Generated.Definitions
import RunOnce.Proofs.Generated.Leaves

/-!
# Adding a target

A procedure depends on the other targets of its project only through its two sections
of producers. So when a target is added at the end of a project, its flag and its
procedure are added to the program, and it is called at the end of the sections of
those targets that it asks to run before or after. No other line changes.
-/

namespace RunOnce.Compile

open RunOnce.Expansion
open RunOnce.Generated
open RunOnce.Journal
open RunOnce.Model
open RunOnce.Ordering
open RunOnce.Text

/-! ## Sections of calls -/

/-- The lines of a section of calls in a procedure. -/
def sectionLines (title : String) (names : List String) : List Line :=
  Statement.linesOfAll 1 (callSection title names)

/-- The lines of a section of calls, with more calls of one target at the end. A
section that was absent gets its comment. -/
def withCalls (title name : String) (count : Nat) (lines : List Line) : List Line :=
  if count = 0 then lines
  else
    (if lines = [] then [⟨1, "// " ++ title ++ ";"⟩] else lines) ++
      List.replicate count ⟨1, guardedCall name⟩

theorem linesOfAll_map_callOnce (level : Nat) (names : List String) :
    Statement.linesOfAll level (names.map .callOnce) =
      names.map fun name => ⟨level, guardedCall name⟩ := by
  induction names with
  | nil => rfl
  | cons name rest ih => simp [Statement.linesOfAll, Statement.lines, ih]

theorem sectionLines_nil (title : String) : sectionLines title [] = [] :=
  rfl

theorem sectionLines_of_ne_nil {title : String} {names : List String} (calls : names ≠ []) :
    sectionLines title names =
      ⟨1, "// " ++ title ++ ";"⟩ :: names.map fun name => ⟨1, guardedCall name⟩ := by
  simp [sectionLines, callSection, calls, Statement.linesOfAll, Statement.lines,
    linesOfAll_map_callOnce, String.append_assoc]

/-- Calls that come last in a section are its last lines. -/
theorem sectionLines_append_replicate (title name : String) (names : List String) (count : Nat) :
    sectionLines title (names ++ List.replicate count name) =
      withCalls title name count (sectionLines title names) := by
  unfold withCalls
  split
  · simp [*]
  · rename_i some
    by_cases absent : names = []
    · simp [absent, sectionLines_nil, sectionLines_of_ne_nil, some]
    · simp [absent, sectionLines_of_ne_nil]

/-! ## Procedures around their sections -/

/-- The lines of a procedure up to its first section of producers. -/
def openingLines (expander : Expander) (target : Target) : List Line :=
  headerLine target.name :: ⟨0, "\x7b"⟩ ::
    (Statement.linesOfAll 1 (writtenSkip expander target) ++
      sectionLines "DependsOnTargets" (listed expander .dependsOn target))

/-- The lines of a procedure between its sections of producers. -/
def bodyLines (expander : Expander) (order : ParameterOrder) (target : Target) : List Line :=
  Statement.linesOfAll 1 ([.blank] ++ target.children.flatMap (writtenChild expander order) ++
    (if target.tasks.isEmpty then [] else [.blank]))

/-- The lines of a procedure after its sections of producers. -/
def closingLines (target : Target) : List Line :=
  [⟨1, runFlag target.name ++ " = true;"⟩, ⟨0, "\x7d"⟩, ⟨0, ""⟩]

/-- The lines of a target's procedure, with given sections of producers. -/
def linesAround (expander : Expander) (order : ParameterOrder) (target : Target)
    (early late : List Line) : List Line :=
  openingLines expander target ++ early ++ bodyLines expander order target ++ late ++
    closingLines target

/-- A target's procedure depends on other targets only through its producers. -/
theorem lines_written (context : Context) (target : Target) :
    (written context target).lines =
      linesAround context.expander context.parameterOrder target
        (sectionLines "BeforeTargets" (context.producers.before target.name))
        (sectionLines "AfterTargets" (context.producers.after target.name)) := by
  simp [written, Procedure.lines, linesAround, openingLines, bodyLines, closingLines,
    sectionLines, headerLine, linesOfAll_append, Statement.linesOfAll, Statement.lines]

/-- The section in which a target's procedure calls the targets that asked to run
before it. -/
def earlySection (expander : Expander) (targets : List Target) (target : Target) : List Line :=
  sectionLines "BeforeTargets" (requesters expander .before targets target.name)

/-- The section in which a target's procedure calls the targets that asked to run
after it. -/
def lateSection (expander : Expander) (targets : List Target) (target : Target) : List Line :=
  sectionLines "AfterTargets" (requesters expander .after targets target.name)

/-- The lines of a program, procedure by procedure. -/
theorem lines_programOf {expander : Expander} {settings : Settings}
    {globals : List (String × String)} {project : Project} {producers : Producers}
    (built : (Producers.ofTargets expander project.targets).outcome = .ok producers)
    (entry : String) :
    (programOf expander settings globals project producers entry).lines =
      (declaredNames project.targets).map flagLine ++
        (middleLines (programOf expander settings globals project producers entry) ++
          (project.targets.flatMap (fun target =>
              linesAround expander settings.parameterOrder target
                (earlySection expander project.targets target)
                (lateSection expander project.targets target)) ++
            [⟨0, entry ++ "();"⟩])) := by
  obtain ⟨_, entered⟩ := Producers.ofTargets_eq_ok built
  rw [programLines_eq, programOf, List.flatMap_map]
  simp only [lines_written, entered, earlySection, lateSection]
  rfl

/-! ## One more target -/

/-- The project with one more target. -/
def withTarget (project : Project) (added : Target) : Project :=
  { project with targets := project.targets ++ [added] }

section

variable {expander : Expander} {targets : List Target} {added target : Target}

/-- One more target is one more producer of a name, as often as it lists the name. -/
theorem requesters_concat (field : OrderingField) (name : String) :
    requesters expander field (targets ++ [added]) name =
      requesters expander field targets name ++
        List.replicate ((listed expander field added).count name) added.name := by
  simp [requesters]

theorem earlySection_concat :
    earlySection expander (targets ++ [added]) target =
      withCalls "BeforeTargets" added.name ((listed expander .before added).count target.name)
        (earlySection expander targets target) := by
  simp only [earlySection, requesters_concat, sectionLines_append_replicate]

theorem lateSection_concat :
    lateSection expander (targets ++ [added]) target =
      withCalls "AfterTargets" added.name ((listed expander .after added).count target.name)
        (lateSection expander targets target) := by
  simp only [lateSection, requesters_concat, sectionLines_append_replicate]

end

/-- When a target is added at the end of a project, its flag comes after the last flag
of the program, and its procedure after the last procedure. In the procedure of each
other target it is called at the end of the section of targets that run before, and
after, as often as it lists that target. All other lines stay as they are. -/
theorem text_with_added_target {expander : Expander} {settings : Settings}
    {globals : List (String × String)} {project : Project} {added : Target}
    {compiled extended : Compiled}
    (assembled : (assemble expander settings globals project).outcome = .ok compiled)
    (assembledMore :
      (assemble expander settings globals (withTarget project added)).outcome = .ok extended) :
    compiled.text = renderLines settings.indentSize
      ((declaredNames project.targets).map flagLine ++
        (middleLines compiled.program ++
          (project.targets.flatMap (fun target =>
              linesAround expander settings.parameterOrder target
                (earlySection expander project.targets target)
                (lateSection expander project.targets target)) ++
            [compiled.program.entryLine]))) ∧
    extended.text = renderLines settings.indentSize
      ((declaredNames project.targets).map flagLine ++ [flagLine added.name] ++
        (middleLines compiled.program ++
          (project.targets.flatMap (fun target =>
              linesAround expander settings.parameterOrder target
                (withCalls "BeforeTargets" added.name
                  ((listed expander .before added).count target.name)
                  (earlySection expander project.targets target))
                (withCalls "AfterTargets" added.name
                  ((listed expander .after added).count target.name)
                  (lateSection expander project.targets target))) ++
            linesAround expander settings.parameterOrder added
              (earlySection expander (project.targets ++ [added]) added)
              (lateSection expander (project.targets ++ [added]) added) ++
            [compiled.program.entryLine]))) := by
  obtain ⟨entry, producers, resolved, built, _, _, rfl⟩ := assemble_eq_ok_iff.mp assembled
  obtain ⟨sameEntry, moreProducers, resolvedMore, builtMore, _, _, rfl⟩ :=
    assemble_eq_ok_iff.mp assembledMore
  -- The default target is looked up without the targets.
  have entries : Except.ok (ε := Failure) sameEntry = .ok entry := resolvedMore.symm.trans resolved
  cases entries
  constructor
  · exact congrArg (renderLines settings.indentSize) (lines_programOf built entry)
  · refine (congrArg (renderLines settings.indentSize) (lines_programOf builtMore entry)).trans ?_
    simp only [withTarget, declaredNames, List.map_append, List.flatMap_append,
      List.flatMap_singleton, earlySection_concat, lateSection_concat]
    rfl

/-- A project in which one target runs after another. -/
def testedProject : Project where
  targets := [{ name := "Build" }, { name := "Test", afterTargets := "Build" }]
  defaultTargets := some "Build"

/-- A target that asks twice to run before another one, and once before itself. -/
def lintTarget : Target where
  name := "Lint"
  beforeTargets := "Build;Build;Lint"

/-- Settings that leave cycles alone. -/
def anyOrder : Settings where
  detectCycles := false

theorem testedProject_with_lintTarget :
    ∃ compiled extended,
      (assemble .ok anyOrder [] testedProject).outcome = .ok compiled ∧
      (assemble .ok anyOrder [] (withTarget testedProject lintTarget)).outcome = .ok extended ∧
      compiled.text = renderLines 4
        ([flagLine "Build", flagLine "Test"] ++ (middleLines compiled.program ++
          (linesAround .ok .sorted { name := "Build" } [] (sectionLines "AfterTargets" ["Test"]) ++
            linesAround .ok .sorted { name := "Test", afterTargets := "Build" } [] [] ++
            [compiled.program.entryLine]))) ∧
      extended.text = renderLines 4
        ([flagLine "Build", flagLine "Test", flagLine "Lint"] ++ (middleLines compiled.program ++
          (linesAround .ok .sorted { name := "Build" }
              [⟨1, "// BeforeTargets;"⟩, ⟨1, guardedCall "Lint"⟩, ⟨1, guardedCall "Lint"⟩]
              (sectionLines "AfterTargets" ["Test"]) ++
            linesAround .ok .sorted { name := "Test", afterTargets := "Build" } [] [] ++
            linesAround .ok .sorted lintTarget (sectionLines "BeforeTargets" ["Lint"]) [] ++
            [compiled.program.entryLine]))) := by
  obtain ⟨compiled, assembled⟩ : ∃ compiled,
      (assemble .ok anyOrder [] testedProject).outcome = .ok compiled :=
    exists_eq_ok_of_isOk (by decide)
  obtain ⟨extended, assembledMore⟩ : ∃ extended,
      (assemble .ok anyOrder [] (withTarget testedProject lintTarget)).outcome = .ok extended :=
    exists_eq_ok_of_isOk (by decide)
  obtain ⟨before, after⟩ := text_with_added_target assembled assembledMore
  exact ⟨compiled, extended, assembled, assembledMore, before, after⟩

end RunOnce.Compile
