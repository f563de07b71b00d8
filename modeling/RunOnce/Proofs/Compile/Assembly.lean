import RunOnce.Compile.Assembly
import RunOnce.Proofs.Compile.Procedure
import RunOnce.Proofs.Execution.Outline
import RunOnce.Proofs.Model.Validated

/-!
# Assembled programs

A project that assembles becomes a program with one procedure for each of its
targets. The outline of the program can be read off the targets: which names
they list, and which of them are skipped. A call is made when its caller is not
skipped, and the calls that are made are the ones of the outline.
-/

namespace RunOnce.Compile

open RunOnce.Execution
open RunOnce.Expansion
open RunOnce.Generated
open RunOnce.Journal
open RunOnce.Model
open RunOnce.Ordering

/-- The first target in a list that a property holds, if it holds one. -/
def firstTarget (source : String) : Option String → Except Failure String
  | none => .error (.noDefaultTarget source none)
  | some list =>
    match splitTargetList list with
    | [] => .error (.noDefaultTarget source none)
    | name :: _ => .ok name

/-- The default target is the first one in the list, wherever the list is found. -/
theorem outcome_resolveDefaultTarget (project : Project) (expander : Expander)
    (settings : Settings) (globals : List (String × String)) :
    (resolveDefaultTarget project expander settings globals).outcome =
      (defaultTargetList project expander settings globals).outcome.bind fun listed =>
        firstTarget listed.1 (some listed.2) := by
  rw [resolveDefaultTarget, Traced.outcome_bind]
  congr 1
  funext listed
  simp only [firstTarget]
  cases splitTargetList listed.2 with
  | nil => rfl
  | cons name others => cases others <;> rfl

/-- The check for cycles, which passes when it is not asked for. -/
def checkIfAsked (settings : Settings) (expander : Expander) (producers : Producers)
    (targets : List Target) : Traced Failure Unit :=
  if settings.detectCycles then checkAcyclic expander producers targets else pure ()

/-- Assembling is a sequence of computations, one of them the check. -/
theorem assembleProgram_eq (expander : Expander) (settings : Settings)
    (globals : List (String × String)) (project : Project) :
    assembleProgram expander settings globals project = (do
      let entry ← resolveDefaultTarget project expander settings globals
      let producers ← Producers.ofTargets expander project.targets
      checkIfAsked settings expander producers project.targets
      let compiled ← procedures ⟨expander, producers, settings.parameterOrder⟩ project.targets
      Traced.report
        (.programAssembled project.targets.length project.emittedProperties.length entry)
      pure {
        flags := declaredNames project.targets
        initializers := initializers project globals
        records := if settings.emitItemSchemas then project.itemSchemas else []
        procedures := compiled
        entry := entry }) := by
  unfold assembleProgram checkIfAsked
  cases settings.detectCycles <;> rfl

/-- Everything that has succeeded when a program is assembled, and the program. -/
theorem assembleProgram_eq_ok {expander : Expander} {settings : Settings}
    {globals : List (String × String)} {project : Project} {program : Program}
    (laidOut : (assembleProgram expander settings globals project).outcome = .ok program) :
    ∃ entry producers compiled,
      (Producers.ofTargets expander project.targets).outcome = .ok producers ∧
      (checkIfAsked settings expander producers project.targets).outcome = .ok () ∧
      (procedures ⟨expander, producers, settings.parameterOrder⟩ project.targets).outcome =
        .ok compiled ∧
      program = {
        flags := declaredNames project.targets
        initializers := initializers project globals
        records := if settings.emitItemSchemas then project.itemSchemas else []
        procedures := compiled
        entry := entry } := by
  rw [assembleProgram_eq] at laidOut
  obtain ⟨entry, _, laidOut⟩ := Traced.outcome_bind_eq_ok_iff.mp laidOut
  obtain ⟨producers, built, laidOut⟩ := Traced.outcome_bind_eq_ok_iff.mp laidOut
  obtain ⟨_, checked, laidOut⟩ := Traced.outcome_bind_eq_ok_iff.mp laidOut
  obtain ⟨compiled, compiledAll, laidOut⟩ := Traced.outcome_bind_eq_ok_iff.mp laidOut
  cases laidOut
  exact ⟨entry, producers, compiled, built, checked, compiledAll, rfl⟩

/-- Everything that has succeeded when a project assembles. -/
theorem assemble_eq_ok {expander : Expander} {settings : Settings}
    {globals : List (String × String)} {project : Project} {compiled : Compiled}
    (assembled : (assemble expander settings globals project).outcome = .ok compiled) :
    ∃ producers, (Producers.ofTargets expander project.targets).outcome = .ok producers ∧
      (settings.detectCycles = true →
        (checkAcyclic expander producers project.targets).outcome = .ok ()) ∧
      (procedures ⟨expander, producers, settings.parameterOrder⟩ project.targets).outcome =
        .ok compiled.program.procedures := by
  obtain ⟨program, laidOut, result⟩ := Traced.outcome_bind_eq_ok_iff.mp assembled
  cases result
  obtain ⟨_, producers, _, built, checked, compiledAll, rfl⟩ := assembleProgram_eq_ok laidOut
  refine ⟨producers, built, ?_, compiledAll⟩
  intro detects
  rw [checkIfAsked, if_pos detects] at checked
  exact checked

/-- What an assembled program declares, and how it is laid out. -/
theorem declarations_assemble {expander : Expander} {settings : Settings}
    {globals : List (String × String)} {project : Project} {compiled : Compiled}
    (assembled : (assemble expander settings globals project).outcome = .ok compiled) :
    compiled.program.initializers = initializers project globals ∧
      compiled.program.records =
        (if settings.emitItemSchemas then project.itemSchemas else []) ∧
      compiled.text = compiled.program.text settings.indentSize := by
  obtain ⟨program, laidOut, result⟩ := Traced.outcome_bind_eq_ok_iff.mp assembled
  cases result
  obtain ⟨_, _, _, _, _, _, rfl⟩ := assembleProgram_eq_ok laidOut
  exact ⟨rfl, rfl, rfl⟩

/-- A run of an assembled program starts with the default target. -/
theorem defaultTarget_assemble {expander : Expander} {settings : Settings}
    {globals : List (String × String)} {project : Project} {compiled : Compiled}
    (assembled : (assemble expander settings globals project).outcome = .ok compiled) :
    compiled.program.entry = compiled.defaultTarget := by
  obtain ⟨program, _, result⟩ := Traced.outcome_bind_eq_ok_iff.mp assembled
  cases result
  rfl

/-- The default target of a compiled project is the one that is found for it. -/
theorem resolveDefaultTarget_of_assemble {expander : Expander} {settings : Settings}
    {globals : List (String × String)} {project : Project} {compiled : Compiled}
    (assembled : (assemble expander settings globals project).outcome = .ok compiled) :
    (resolveDefaultTarget project expander settings globals).outcome =
      .ok compiled.defaultTarget := by
  obtain ⟨program, laidOut, result⟩ := Traced.outcome_bind_eq_ok_iff.mp assembled
  cases result
  rw [assembleProgram_eq] at laidOut
  obtain ⟨entry, resolved, laidOut⟩ := Traced.outcome_bind_eq_ok_iff.mp laidOut
  obtain ⟨producers, _, laidOut⟩ := Traced.outcome_bind_eq_ok_iff.mp laidOut
  obtain ⟨_, _, laidOut⟩ := Traced.outcome_bind_eq_ok_iff.mp laidOut
  obtain ⟨procedures, _, laidOut⟩ := Traced.outcome_bind_eq_ok_iff.mp laidOut
  cases laidOut
  exact resolved

/-! ## Programs of targets -/

/-- Whether the procedures of a program are those of targets. -/
def IsProgramOf (expander : Expander) (targets : List Target) (program : Program) : Prop :=
  ∃ producers order, (Producers.ofTargets expander targets).outcome = .ok producers ∧
    (procedures ⟨expander, producers, order⟩ targets).outcome = .ok program.procedures

theorem isProgramOf_assemble {expander : Expander} {settings : Settings}
    {globals : List (String × String)} {project : Project} {compiled : Compiled}
    (assembled : (assemble expander settings globals project).outcome = .ok compiled) :
    IsProgramOf expander project.targets compiled.program := by
  obtain ⟨producers, built, _, results⟩ := assemble_eq_ok assembled
  exact ⟨producers, _, built, results⟩

variable {expander : Expander} {targets : List Target} {program : Program}
  {valuation : Valuation}

/-- The declared targets are the ones that have a procedure. -/
theorem IsProgramOf.procedure?_ne_none_iff (isProgram : IsProgramOf expander targets program)
    {name : String} : program.procedure? name ≠ none ↔ name ∈ declaredNames targets := by
  obtain ⟨producers, order, _, compiled⟩ := isProgram
  obtain ⟨names, _⟩ := procedures_eq_ok compiled
  rw [← names, ← Option.isSome_iff_ne_none, Program.procedure?, List.find?_isSome]
  simp

/-! ## Calls that are made -/

/-- Whether a name is that of a target that is skipped. -/
def Skipped (valuation : Valuation) (targets : List Target) (name : String) : Prop :=
  ∃ target ∈ targets, target.name = name ∧ Skips valuation target

theorem skipped_name_iff (distinct : (declaredNames targets).Nodup) {target : Target}
    (declared : target ∈ targets) :
    Skipped valuation targets target.name ↔ Skips valuation target := by
  constructor
  · rintro ⟨other, otherDeclared, same, skips⟩
    cases target_eq_of_name_eq distinct otherDeclared declared same
    exact skips
  · intro skips
    exact ⟨target, declared, rfl, skips⟩

/-- Whether one target calls another and is not skipped. -/
def CallsUnskipped (expander : Expander) (targets : List Target) (valuation : Valuation)
    (caller callee : String) : Prop :=
  Calls expander targets caller callee ∧ ¬Skipped valuation targets caller

/-! ## Outlines -/

/-- The outline of a program of targets. -/
def outlineOf (expander : Expander) (targets : List Target) (program : Program)
    (valuation : Valuation) : Outline where
  Skipped := Skipped valuation targets
  early name := ((targets.find? (·.name == name)).map (earlyCalls expander targets)).getD []
  late name := ((targets.find? (·.name == name)).map (lateCalls expander targets)).getD []
  actions name := ((program.procedure? name).map fun found => actionsOfAll found.body).getD []

theorem find?_name_eq_some (distinct : (declaredNames targets).Nodup) {target : Target}
    (declared : target ∈ targets) : targets.find? (·.name == target.name) = some target := by
  cases found : targets.find? (·.name == target.name) with
  | none => simpa using List.find?_eq_none.mp found target declared
  | some other =>
    have same : other.name = target.name := by simpa using List.find?_some found
    rw [target_eq_of_name_eq distinct (List.mem_of_find?_eq_some found) declared same]

theorem early_outlineOf (distinct : (declaredNames targets).Nodup) {target : Target}
    (declared : target ∈ targets) :
    (outlineOf expander targets program valuation).early target.name =
      earlyCalls expander targets target := by
  simp [outlineOf, find?_name_eq_some distinct declared]

theorem late_outlineOf (distinct : (declaredNames targets).Nodup) {target : Target}
    (declared : target ∈ targets) :
    (outlineOf expander targets program valuation).late target.name =
      lateCalls expander targets target := by
  simp [outlineOf, find?_name_eq_some distinct declared]

theorem actions_outlineOf {name : String} {procedure : Procedure}
    (found : program.procedure? name = some procedure) :
    (outlineOf expander targets program valuation).actions name =
      actionsOfAll procedure.body := by
  simp [outlineOf, found]

namespace IsProgramOf

/-- The outline says what the procedures of the program do. -/
theorem describes (distinct : (declaredNames targets).Nodup)
    (isProgram : IsProgramOf expander targets program) (valuation : Valuation) :
    (outlineOf expander targets program valuation).Describes program valuation := by
  obtain ⟨producers, order, built, compiled⟩ := isProgram
  obtain ⟨_, entered⟩ := Producers.ofTargets_eq_ok built
  obtain ⟨_, _, sources⟩ := procedures_eq_ok compiled
  intro name procedure found occurrences course
  have same : procedure.target = name := by simpa using List.find?_some found
  obtain ⟨target, declared, named, compiledTarget⟩ :=
    sources procedure (List.mem_of_find?_eq_some found)
  cases named.trans same
  rcases course_of_procedure compiledTarget course with
    ⟨skips, rfl⟩ | ⟨runs, middle, inBody, written, rfl⟩
  · exact .skipped ((skipped_name_iff distinct declared).mpr skips)
  · have notSkipped : ¬(outlineOf expander targets program valuation).Skipped target.name :=
      fun skipped => runs ((skipped_name_iff distinct declared).mp skipped)
    rw [← actions_outlineOf found] at written
    have script := Outline.Script.completed notSkipped inBody written
    rw [early_outlineOf distinct declared, late_outlineOf distinct declared] at script
    simpa [earlyCalls, lateCalls, entered] using script

/-- The calls of the outline are the calls that are made. -/
theorem live_eq (distinct : (declaredNames targets).Nodup)
    (isProgram : IsProgramOf expander targets program) :
    (outlineOf expander targets program valuation).Live program =
      CallsUnskipped expander targets valuation := by
  funext caller callee
  apply propext
  constructor
  · rintro ⟨callerKnown, calleeKnown, runs, calls⟩
    have callerDeclared := isProgram.procedure?_ne_none_iff.mp callerKnown
    obtain ⟨target, declared, rfl⟩ := List.mem_map.mp callerDeclared
    rw [early_outlineOf distinct declared, late_outlineOf distinct declared] at calls
    exact ⟨(calls_iff distinct declared).mpr
      ⟨isProgram.procedure?_ne_none_iff.mp calleeKnown, calls⟩, runs⟩
  · rintro ⟨calls, runs⟩
    obtain ⟨target, declared, rfl⟩ := calls.caller_declared
    obtain ⟨calleeDeclared, listed⟩ := (calls_iff distinct declared).mp calls
    refine ⟨?_, ?_, runs, ?_⟩
    · exact isProgram.procedure?_ne_none_iff.mpr (List.mem_map_of_mem declared)
    · exact isProgram.procedure?_ne_none_iff.mpr calleeDeclared
    · rw [early_outlineOf distinct declared, late_outlineOf distinct declared]
      exact listed

end IsProgramOf

end RunOnce.Compile
