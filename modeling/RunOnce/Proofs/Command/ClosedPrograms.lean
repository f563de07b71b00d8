import RunOnce.Proofs.Command.Validation
import RunOnce.Proofs.Compile.CallStructure
import RunOnce.Proofs.Generated.Definitions
import RunOnce.Proofs.Ordering.Dangling

/-!
# Programs without undeclared calls

Validation warns about every listed name that no target declares. Not every such
name is called: a target that wants to run before or after a name that nobody
declares is never called for it. The undeclared names that a program calls are
those that targets depend on, and perhaps its default target. So a project that
passes strict validation compiles to a program that calls nothing but targets
which it defines.
-/

namespace RunOnce.Compile

open RunOnce.Expansion
open RunOnce.Generated
open RunOnce.Journal
open RunOnce.Journal.Traced
open RunOnce.Model
open RunOnce.Ordering

/-! ## Undeclared calls -/

/-- The targets of the guarded calls in procedures, in order. -/
def callsInProcedures (procedures : List Procedure) : List String :=
  procedures.flatMap fun procedure => callsInAll procedure.body

theorem callsInProcedures_eq {context : Context} {targets : List Target}
    {results : List Procedure} (compiled : (procedures context targets).outcome = .ok results) :
    callsInProcedures results = targets.flatMap fun target =>
      listed context.expander .dependsOn target ++ context.producers.before target.name ++
        context.producers.after target.name := by
  have each := procedures_eq_ok_iff.mp compiled
  clear compiled
  induction each with
  | nil => rfl
  | cons here _ ih =>
    rw [List.flatMap_cons, ← callsInAll_procedure here, ← ih]
    rfl

variable {expander : Expander} {targets : List Target} {producers : Producers}

/-- Only declared targets ask to run before or after another one. -/
theorem declared_of_producer
    (built : (Producers.ofTargets expander targets).outcome = .ok producers)
    {name producer : String} (asks : producer ∈ producers.before name ++ producers.after name) :
    producer ∈ declaredNames targets := by
  obtain ⟨_, entered⟩ := Producers.ofTargets_eq_ok built
  rw [(entered name).1, (entered name).2, List.mem_append, mem_requesters_iff,
    mem_requesters_iff] at asks
  rcases asks with ⟨target, declared, rfl, _⟩ | ⟨target, declared, rfl, _⟩
  · exact List.mem_map_of_mem declared
  · exact List.mem_map_of_mem declared

/-- The undeclared names that procedures call are those that targets depend on. -/
theorem undeclared_callsInProcedures {order : ParameterOrder} {results : List Procedure}
    (built : (Producers.ofTargets expander targets).outcome = .ok producers)
    (compiled : (procedures ⟨expander, producers, order⟩ targets).outcome = .ok results) :
    (callsInProcedures results).filter (· ∉ declaredNames targets) =
      targets.flatMap fun target =>
        (listed expander .dependsOn target).filter (· ∉ declaredNames targets) := by
  rw [callsInProcedures_eq compiled, List.filter_flatMap]
  apply List.flatMap_congr
  intro target _
  have producersDeclared : (producers.before target.name ++ producers.after target.name).filter
      (· ∉ declaredNames targets) = [] := by
    apply List.filter_eq_nil_iff.mpr
    intro producer asks
    simpa using declared_of_producer built asks
  rw [List.append_assoc, List.filter_append, producersDeclared, List.append_nil]

/-! ## Definitions -/

/-- The program of a validated project defines each declared target once. -/
theorem definesOnce_of_assemble {settings : Settings} {globals : List (String × String)}
    {project : Project} {compiled : Compiled} {name : String} (validated : project.Validated)
    (assembled : (assemble expander settings globals project).outcome = .ok compiled)
    (declared : name ∈ declaredNames project.targets) : DefinesOnce compiled.program name := by
  obtain ⟨program, laidOut, result⟩ := outcome_bind_eq_ok_iff.mp assembled
  cases result
  obtain ⟨_, _, results, _, _, compiledAll, rfl⟩ := assembleProgram_eq_ok laidOut
  obtain ⟨names, _⟩ := procedures_eq_ok compiledAll
  have distinct := validated.nodup_declaredNames
  exact definesOnce_of_nodup distinct declared (names ▸ distinct) (names ▸ declared)

end RunOnce.Compile

namespace RunOnce.Command

open RunOnce.Compile
open RunOnce.Document
open RunOnce.Expansion
open RunOnce.Generated
open RunOnce.Journal
open RunOnce.Journal.Traced
open RunOnce.Model
open RunOnce.Ordering
open ValidateCommand

variable {settings other : Settings} {globals : List (String × String)} {project : Project}
  {request : Request} {entry : String}

/-! ## Warnings -/

theorem getTarget?_eq_none_iff {name : String} :
    project.getTarget? name = none ↔ name ∉ declaredNames project.targets := by
  simp [Project.getTarget?, declaredNames]

theorem validateUnder_of_checkProject
    (checked : (checkProject settings request.globals project).outcome = .ok entry) :
    validateUnder settings request project =
      reportReferences request project entry
        (checkProject settings request.globals project).events := by
  simp only [validateUnder, checked]

/-- The warnings about references and the one about the default target are told
apart by their first letters. -/
theorem danglingWarning_ne_entryWarning (dangling : Dangling) :
    danglingWarning dangling ≠ entryWarning entry := by
  intro same
  have letters := congrArg String.toList (Notice.status.inj same).2
  simp at letters

/-- The warnings about a project and its default target. -/
def warningsAbout (globals : List (String × String)) (project : Project) (entry : String) :
    List Notice :=
  (Dangling.ofTargets (PropertyTable.ofProject project globals).expand
      project.targets).value.map danglingWarning ++
    (if (project.getTarget? entry).isNone then [entryWarning entry] else [])

/-- A default target is warned about exactly when it is not declared. -/
theorem entryWarning_mem_warningsAbout_iff :
    entryWarning entry ∈ warningsAbout globals project entry ↔
      entry ∉ declaredNames project.targets := by
  have noDangling : ∀ found : List Dangling, entryWarning entry ∉ found.map danglingWarning := by
    intro found listed
    obtain ⟨dangling, _, same⟩ := List.mem_map.mp listed
    exact danglingWarning_ne_entryWarning dangling same
  rw [warningsAbout, List.mem_append, or_iff_right (noDangling _), ← getTarget?_eq_none_iff,
    ← Option.isNone_iff_eq_none]
  split <;> simp [*]

theorem warningsAbout_eq_nil_iff :
    warningsAbout globals project entry = [] ↔
      (Dangling.ofTargets (PropertyTable.ofProject project globals).expand
          project.targets).value = [] ∧
        entry ∈ declaredNames project.targets := by
  rw [warningsAbout, List.append_eq_nil_iff, List.map_eq_nil_iff]
  apply and_congr_right
  intro _
  rw [ite_eq_right_iff, Option.isNone_iff_eq_none, getTarget?_eq_none_iff]
  simp

/-- The report shows the warnings; in strict mode they are reason to give up. -/
theorem reportReferences_eq (request : Request) (project : Project) (entry : String)
    (events : List Event) :
    reportReferences request project entry events =
      let notices := (events ++ (Dangling.ofTargets
        (PropertyTable.ofProject project request.globals).expand
          project.targets).events).map .event ++ warningsAbout request.globals project entry
      if request.strict && !(warningsAbout request.globals project entry).isEmpty then
        { notices := notices
          ending := .gaveUp
            (.undeclared (warningsAbout request.globals project entry).length) }
      else { notices := notices ++ [.status .success (validMessage project entry)] } :=
  rfl

theorem entryWarning_mem_iff {events : List Event} :
    entryWarning entry ∈ (reportReferences request project entry events).notices ↔
      entry ∉ declaredNames project.targets := by
  have noEvent : ∀ reported : List Event, entryWarning entry ∉ reported.map .event := by
    intro reported listed
    obtain ⟨event, _, same⟩ := List.mem_map.mp listed
    cases same
  have noSuccess : ∀ message, entryWarning entry ≠ .status .success message := by
    intro message same
    cases same
  have undeclared : entryWarning entry ∈ warningsAbout request.globals project entry ↔
      entry ∉ declaredNames project.targets := entryWarning_mem_warningsAbout_iff
  rw [reportReferences_eq, ← undeclared]
  dsimp only
  split <;>
    simp only [List.mem_append, List.mem_singleton, noEvent, noSuccess, false_or, or_false]

/-- Strict validation succeeds exactly when there is nothing to warn about. -/
theorem completed_iff_of_strict {events : List Event} (strict : request.strict = true) :
    (reportReferences request project entry events).ending = .completed ↔
      warningsAbout request.globals project entry = [] := by
  rw [reportReferences_eq, strict]
  cases warningsAbout request.globals project entry with
  | nil => simp
  | cons warning rest => simp

/-! ## Closed programs -/

/-- Once the checks have passed, all ordering lists expand. -/
theorem expands_of_checkProject (validated : project.Validated)
    (checked : (checkProject settings globals project).outcome = .ok entry) :
    ∀ target ∈ project.targets, ∀ field,
      Expands (PropertyTable.ofProject project globals).expand field target := by
  have none := (failsInOrder_checkProject validated).exists_ok_iff.mp ⟨entry, checked⟩
  intro target declared field
  exact expands_of_earlyFailures_eq_nil none field target declared

/-- For a project that passes the checks and compiles, the undeclared names that the
procedures call are the dangling references of the lists of dependencies, in order
and as often as they are listed; the other calls name targets that asked to run
before or after, and these are declared. The search for dangling references does
not have to take any list as it stands. With the same property for the default
target, validation warns about the default target exactly when the program ends
with the call of an undeclared one; and if strict validation succeeds, every call
names a declared target, and the program defines each target that is called
once. -/
theorem strict_validation_closes_program {compiled : Compiled} (validated : project.Validated)
    (checked : (checkProject settings globals project).outcome = .ok entry)
    (assembled : (compile other globals project).outcome = .ok compiled) :
    (callsInProcedures compiled.program.procedures).filter (· ∉ declaredNames project.targets) =
      ((Dangling.ofTargets (PropertyTable.ofProject project globals).expand
        project.targets).value.filter (·.field = .dependsOn)).map Dangling.missing ∧
    (∃ producers,
      (Producers.ofTargets (PropertyTable.ofProject project globals).expand
        project.targets).outcome = .ok producers ∧
      (callsInProcedures compiled.program.procedures = project.targets.flatMap fun target =>
        listed (PropertyTable.ofProject project globals).expand .dependsOn target ++
          producers.before target.name ++ producers.after target.name) ∧
      ∀ name, ∀ producer ∈ producers.before name ++ producers.after name,
        producer ∈ declaredNames project.targets) ∧
    (Dangling.ofTargets (PropertyTable.ofProject project globals).expand
      project.targets).events = [] ∧
    (other.defaultTargetProperty = settings.defaultTargetProperty →
      ∀ request : Request, request.globals = globals →
        (entryWarning entry ∈ (validateUnder settings request project).notices ↔
          compiled.program.entry ∉ declaredNames project.targets) ∧
        (request.strict = true →
          (validateUnder settings request project).ending = .completed →
          ∀ name,
            name = compiled.program.entry ∨
                name ∈ callsInProcedures compiled.program.procedures →
              name ∈ declaredNames project.targets ∧ DefinesOnce compiled.program name)) := by
  have expand := expands_of_checkProject validated checked
  obtain ⟨producers, built, _, compiledAll⟩ := assemble_eq_ok assembled
  have undeclared := (undeclared_callsInProcedures built compiledAll).trans
    (Dangling.missing_ofTargets expand .dependsOn).symm
  refine ⟨undeclared, ⟨producers, built, callsInProcedures_eq compiledAll, ?_⟩, ?_, ?_⟩
  · intro name producer asks
    exact declared_of_producer built asks
  · rw [Dangling.ofTargets_of_expands expand]
    rfl
  · rintro sameProperty request rfl
    have entryEq : compiled.program.entry = entry := by
      rw [defaultTarget_assemble assembled]
      exact defaultTarget_eq_of_checkProject sameProperty checked assembled
    rw [validateUnder_of_checkProject checked, entryEq]
    refine ⟨entryWarning_mem_iff, ?_⟩
    intro strict completed name called
    obtain ⟨noneDangles, entryDeclared⟩ :=
      warningsAbout_eq_nil_iff.mp ((completed_iff_of_strict strict).mp completed)
    have declared : name ∈ declaredNames project.targets := by
      rcases called with rfl | called
      · exact entryDeclared
      · rw [noneDangles] at undeclared
        have kept := List.filter_eq_nil_iff.mp undeclared name called
        simpa using kept
    exact ⟨declared, definesOnce_of_assemble validated assembled declared⟩

/-- A project of two targets: one depends on some names, the other wants to run
before some names. -/
def referringProject (needed wanted : String) : Project where
  targets := [
    { name := "Build", dependsOnTargets := needed },
    { name := "Check", beforeTargets := wanted }]
  defaultTargets := some "Build"

/-- A document that is read as the project. -/
def referringDocument (needed wanted : String) : Value :=
  .mapping [
    (.text "targets", .list [
      .mapping [(.text "name", .text "Build"), (.text "depends_on_targets", .text needed)],
      .mapping [(.text "name", .text "Check"), (.text "before_targets", .text wanted)]]),
    (.text "default_targets", .text "Build")]

theorem referringProject_validated (needed wanted : String) :
    (referringProject needed wanted).Validated :=
  ⟨referringDocument needed wanted, rfl⟩

theorem referringProject_compiles {needed wanted : String}
    (checked : (checkProject {} [] (referringProject needed wanted)).outcome = .ok "Build") :
    ∃ compiled, (compile {} [] (referringProject needed wanted)).outcome = .ok compiled := by
  apply exists_compile_of_checkProject (referringProject_validated needed wanted) rfl checked
  intro target declared raw present
  simp only [referringProject, List.mem_cons, List.not_mem_nil, or_false] at declared
  rcases declared with rfl | rfl <;> cases present

/-- Of two undeclared names, the one that is needed is called; without undeclared
names, strict validation succeeds and the called target is defined once. -/
theorem referringProject_calls :
    (∃ compiled,
      (checkProject {} [] (referringProject "Check; Missing" "Build; Ghost")).outcome =
        .ok "Build" ∧
      (compile {} [] (referringProject "Check; Missing" "Build; Ghost")).outcome = .ok compiled ∧
      (callsInProcedures compiled.program.procedures).filter (· ∉ ["Build", "Check"]) =
        ["Missing"]) ∧
    ∃ compiled,
      (checkProject {} [] (referringProject "Check" "Build")).outcome = .ok "Build" ∧
      (compile {} [] (referringProject "Check" "Build")).outcome = .ok compiled ∧
      (validateUnder {} { strict := true } (referringProject "Check" "Build")).ending =
        .completed ∧
      DefinesOnce compiled.program "Build" := by
  constructor
  · have checked : (checkProject {} []
        (referringProject "Check; Missing" "Build; Ghost")).outcome = .ok "Build" := by cbv
    obtain ⟨compiled, assembled⟩ := referringProject_compiles checked
    obtain ⟨undeclared, _⟩ := strict_validation_closes_program
      (referringProject_validated _ _) checked assembled
    exact ⟨compiled, checked, assembled, undeclared.trans (by cbv)⟩
  · have checked : (checkProject {} [] (referringProject "Check" "Build")).outcome =
        .ok "Build" := by cbv
    have quiet : warningsAbout [] (referringProject "Check" "Build") "Build" = [] :=
      warningsAbout_eq_nil_iff.mpr ⟨by cbv, by decide⟩
    have completed : (validateUnder {} { strict := true }
        (referringProject "Check" "Build")).ending = .completed := by
      rw [validateUnder_of_checkProject checked]
      exact (completed_iff_of_strict rfl).mpr quiet
    obtain ⟨compiled, assembled⟩ := referringProject_compiles checked
    obtain ⟨_, _, _, closed⟩ := strict_validation_closes_program
      (referringProject_validated _ _) checked assembled
    obtain ⟨_, defines⟩ := closed rfl { strict := true } rfl
    have defined := (defines rfl completed compiled.program.entry (.inl rfl)).2
    rw [defaultTarget_assemble assembled,
      defaultTarget_eq_of_checkProject rfl checked assembled] at defined
    exact ⟨compiled, checked, assembled, completed, defined⟩

end RunOnce.Command
