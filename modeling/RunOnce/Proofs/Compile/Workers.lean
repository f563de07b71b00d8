import RunOnce.Proofs.Compile.Assembly
import RunOnce.Proofs.Scheduling.Pool

/-!
# Compiling with several workers

Several targets may be compiled at a time, by a pool of workers. What a target
compiles to depends on nothing that another target does, so however the workers
come along, the procedures are those of the targets in the order of declaration,
and if there is a failure it is that of the first target that fails in this order.
A project assembles to the same program, or fails in the same way, with any number
of workers.
-/

namespace RunOnce.Compile

open RunOnce.Expansion
open RunOnce.Generated
open RunOnce.Journal
open RunOnce.Model
open RunOnce.Ordering
open RunOnce.Scheduling

/-! ## Compiling targets -/

/-- What a worker makes of a target. -/
def compileTarget (context : Context) (target : Target) : Except Failure Procedure :=
  (procedure context target).outcome

/-- What compiling targets with a number of workers may come to. Several targets are
given to a pool if there are several workers, and compiled in turn if not. -/
inductive CompilesTo (workers : Nat) (context : Context) (targets : List Target) :
    Except Failure (List Procedure) → Prop
  | pooled {jobs : List (Job Target Failure Procedure)} {outcome : Except Failure (List Procedure)}
      (several : 1 < workers) (many : 1 < targets.length)
      (run : Relation.ReflTransGen (Step (compileTarget context) workers) (Pool.start targets)
        ⟨jobs, .left outcome⟩) :
      CompilesTo workers context targets outcome
  | inTurn (few : ¬(1 < workers ∧ 1 < targets.length)) :
      CompilesTo workers context targets (procedures context targets).outcome

/-- Whatever the number of workers and the order in which they finish, targets
compile as they do in turn. -/
theorem compilesTo_iff {workers : Nat} {context : Context} {targets : List Target}
    {outcome : Except Failure (List Procedure)} :
    CompilesTo workers context targets outcome ↔
      outcome = (procedures context targets).outcome := by
  constructor
  · rintro (⟨several, many, run⟩ | few)
    · rw [outcome_procedures]
      exact (exists_run_iff (Nat.zero_lt_of_lt several)).mp ⟨_, run⟩
    · rfl
  · rintro rfl
    by_cases pool : 1 < workers ∧ 1 < targets.length
    · obtain ⟨several, many⟩ := pool
      have inTurn := outcome_procedures context targets
      obtain ⟨jobs, run⟩ := (exists_run_iff (Nat.zero_lt_of_lt several)).mpr inTurn
      exact .pooled several many run
    · exact .inTurn pool

/-! ## Assembling projects -/

/-- Assemble a project, with the given way of compiling its targets. -/
def assembleBy (compileTargets : Context → List Target → Except Failure (List Procedure))
    (expander : Expander) (settings : Settings) (globals : List (String × String))
    (project : Project) : Except Failure Compiled := do
  let entry ← (resolveDefaultTarget project expander settings globals).outcome
  let producers ← (Producers.ofTargets expander project.targets).outcome
  (checkIfAsked settings expander producers project.targets).outcome
  let compiled ← compileTargets ⟨expander, producers, settings.parameterOrder⟩ project.targets
  let program : Program := {
    flags := declaredNames project.targets
    initializers := initializers project globals
    records := if settings.emitItemSchemas then project.itemSchemas else []
    procedures := compiled
    entry := entry }
  pure {
    program := program
    text := program.text settings.indentSize
    targets := declaredNames project.targets
    defaultTarget := entry }

/-- What assembling a project may come to, with as many workers as the settings
say. -/
def AssemblesTo (expander : Expander) (settings : Settings) (globals : List (String × String))
    (project : Project) (outcome : Except Failure Compiled) : Prop :=
  ∃ compileTargets,
    (∀ context targets,
      CompilesTo settings.maxWorkers context targets (compileTargets context targets)) ∧
    outcome = assembleBy compileTargets expander settings globals project

/-- With targets compiled in turn this is how projects are assembled. -/
theorem assembleBy_procedures (expander : Expander) (settings : Settings)
    (globals : List (String × String)) (project : Project) :
    assembleBy (fun context targets => (procedures context targets).outcome) expander settings
      globals project = (assemble expander settings globals project).outcome := by
  rw [assemble, assembleProgram_eq, assembleBy]
  simp only [Traced.outcome_bind]
  cases (resolveDefaultTarget project expander settings globals).outcome with
  | error failure => rfl
  | ok entry =>
    cases (Producers.ofTargets expander project.targets).outcome with
    | error failure => rfl
    | ok producers =>
      cases checked : (checkIfAsked settings expander producers project.targets).outcome with
      | error failure => simp only [bind, Except.bind, checked]
      | ok =>
        cases compiled : (procedures ⟨expander, producers, settings.parameterOrder⟩
          project.targets).outcome with
        | error failure => simp only [bind, Except.bind, checked, compiled]
        | ok results =>
          simp only [bind, Except.bind, checked, compiled]
          rfl

/-- A project assembles alike with any number of workers. -/
theorem assemblesTo_iff {expander : Expander} {settings : Settings}
    {globals : List (String × String)} {project : Project} {outcome : Except Failure Compiled} :
    AssemblesTo expander settings globals project outcome ↔
      outcome = (assemble expander settings globals project).outcome := by
  constructor
  · rintro ⟨compileTargets, schedule, rfl⟩
    have inTurn : compileTargets = fun context targets => (procedures context targets).outcome := by
      funext context targets
      exact compilesTo_iff.mp (schedule context targets)
    rw [inTurn, assembleBy_procedures]
  · rintro rfl
    refine ⟨fun context targets => (procedures context targets).outcome, ?_, ?_⟩
    · intro context targets
      exact compilesTo_iff.mpr rfl
    · rw [assembleBy_procedures]

/-! ## The number of workers -/

/-- With several workers, a pool that is given targets comes to its end whatever
happens in it, with the outcome of compiling the targets in turn. With any number of
workers, targets compile to their procedures in the order of declaration exactly if
each of them compiles, and fail exactly with the failure of the first target in this
order that fails, whichever failed first in time. So the program of a project, its
text and its default target, and the failure if there is one, do not depend on the
number of workers. -/
theorem workers_make_no_difference (context : Context) (targets : List Target)
    (expander : Expander) (settings : Settings) (globals : List (String × String))
    (project : Project) :
    (∀ workers, 1 < workers →
      EndsWith (compileTarget context) workers (procedures context targets).outcome
        (Pool.start targets)) ∧
    (∀ workers results, CompilesTo workers context targets (.ok results) ↔
      List.Forall₂ (fun target result => (procedure context target).outcome = .ok result)
        targets results) ∧
    (∀ workers failure, CompilesTo workers context targets (.error failure) ↔
      ∃ earlier target later, targets = earlier ++ target :: later ∧
        (∀ ahead ∈ earlier, ∃ result, (procedure context ahead).outcome = .ok result) ∧
        (procedure context target).outcome = .error failure) ∧
    ∀ workers outcome,
      AssemblesTo expander { settings with maxWorkers := workers } globals project outcome ↔
        outcome = (assemble expander settings globals project).outcome := by
  refine ⟨?_, ?_, ?_, ?_⟩
  · intro workers several
    rw [outcome_procedures]
    exact (sound_start (compileTarget context) targets).endsWith (Nat.zero_lt_of_lt several)
  · intro workers results
    rw [compilesTo_iff, eq_comm]
    exact procedures_eq_ok_iff
  · intro workers failure
    rw [compilesTo_iff, eq_comm, outcome_procedures]
    exact exceptMapM_eq_error_iff
  · intro workers outcome
    exact assemblesTo_iff

/-- A target with a skip condition. -/
def declaredFirst : Target :=
  { name := "First", condition := some "$(A)" }

/-- Another one, declared after it. -/
def declaredSecond : Target :=
  { name := "Second", condition := some "$(B)" }

/-- What the two are compiled with: nothing expands. -/
def barrenContext : Context :=
  ⟨fun raw => .error (.undefined raw), ⟨[], []⟩, .sorted⟩

/-- The failure of a target whose skip condition does not expand. -/
def unexpandedCondition (name condition : String) : Failure :=
  .controlFlow name "condition" condition (Reason.undefined condition).text

/-- The second target may fail while the first is still being compiled. In the end the
failure is that of the first. -/
theorem declaredFirst_is_reported :
    Relation.ReflTransGen (Step (compileTarget barrenContext) 2)
      (Pool.start [declaredFirst, declaredSecond])
      ⟨[⟨declaredFirst, .running⟩,
        ⟨declaredSecond, .finished (.error (unexpandedCondition "Second" "$(B)"))⟩],
        .reading []⟩ ∧
    EndsWith (compileTarget barrenContext) 2 (.error (unexpandedCondition "First" "$(A)"))
      (Pool.start [declaredFirst, declaredSecond]) := by
  constructor
  · have takeFirst : Step (compileTarget barrenContext) 2
        (Pool.start [declaredFirst, declaredSecond])
        ⟨[⟨declaredFirst, .running⟩, ⟨declaredSecond, .waiting⟩], .reading []⟩ :=
      @Step.take _ _ _ _ _ [] [⟨declaredSecond, .waiting⟩] declaredFirst _ nofun (by decide)
    have takeSecond : Step (compileTarget barrenContext) 2
        ⟨[⟨declaredFirst, .running⟩, ⟨declaredSecond, .waiting⟩], .reading []⟩
        ⟨[⟨declaredFirst, .running⟩, ⟨declaredSecond, .running⟩], .reading []⟩ :=
      @Step.take _ _ _ _ _ [⟨declaredFirst, .running⟩] [] declaredSecond _
        (by simp [Job.isWaiting]) (by decide)
    have finishSecond : Step (compileTarget barrenContext) 2
        ⟨[⟨declaredFirst, .running⟩, ⟨declaredSecond, .running⟩], .reading []⟩
        ⟨[⟨declaredFirst, .running⟩,
          ⟨declaredSecond, .finished (compileTarget barrenContext declaredSecond)⟩],
          .reading []⟩ :=
      @Step.finish _ _ _ _ _ [⟨declaredFirst, .running⟩] [] declaredSecond _
    exact ((Relation.ReflTransGen.single takeFirst).tail takeSecond).tail finishSecond
  · obtain ⟨ends, _⟩ := workers_make_no_difference barrenContext [declaredFirst, declaredSecond]
      barrenContext.expander {} [] {}
    exact ends 2 (by decide)

end RunOnce.Compile
