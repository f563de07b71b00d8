import Mathlib.Algebra.GroupWithZero.Nat
import RunOnce.Proofs.Execution.Record

/-!
# Runs that come to an end

A run that gets to no cycle enters each procedure at most once. Between two
entries, the procedures on the stack only have fewer and fewer statements ahead
of them. So such a run comes to an end; and no other run does, because a run
that has come to an end has set the flags of all targets it got to in a settled
order.
-/

namespace RunOnce.Execution

open RunOnce.Generated
open RunOnce.Ordering

/-- The targets that were entered, the latest first. -/
def entries (history : History) : List String :=
  history.filterMap fun
    | .entered target => some target
    | _ => none

theorem mem_entries_iff {history : History} {target : String} :
    target ∈ entries history ↔ .entered target ∈ history := by
  simp only [entries, List.mem_filterMap]
  constructor
  · rintro ⟨occurrence, listed, same⟩
    cases occurrence <;> cases same
    exact listed
  · intro listed
    exact ⟨_, listed, rfl⟩

/-- How many steps the procedures on the stack take at most by themselves. -/
def loadOf (frames : List Frame) : Nat :=
  (frames.map fun frame => weightOfAll frame.rest + 1).sum

/-- How far a run is from its end: how many targets have not been entered, then
how much the procedures on the stack have ahead of them. -/
def distance (program : Program) (configuration : Configuration) : Nat × Nat :=
  (CallGraph.unvisited (program.procedures.map Procedure.target)
    (entries configuration.history), loadOf configuration.frames)

theorem mem_targets_of_procedure? {program : Program} {target : String}
    {procedure : Procedure} (found : program.procedure? target = some procedure) :
    target ∈ program.procedures.map Procedure.target := by
  have same : procedure.target = target := by simpa using List.find?_some found
  exact List.mem_map.mpr ⟨procedure, List.mem_of_find?_eq_some found, same⟩

namespace Outline

variable {outline : Outline} {program : Program} {valuation : Valuation}

/-- Every move of a run that gets to no cycle brings it closer to its end. -/
theorem distance_decreases (acyclic : outline.Acyclic program)
    {configuration next : Configuration} (move : Move program valuation configuration next)
    (orderly : outline.Orderly program valuation configuration)
    (recorded : outline.Recorded program valuation configuration) :
    Prod.Lex (· < ·) (· < ·) (distance program next) (distance program configuration) := by
  cases move with
  | @advance target statements rest frames history made blocked course lighter =>
    have entered : entries (made.toList ++ history) = entries history := by
      cases made with
      | none => rfl
      | some occurrence =>
        obtain ⟨_, _, _, done, _, resumes, _⟩ := orderly.stacked.1
        obtain ⟨more, script⟩ := (resumes.advance course).exists_script
        cases occurrence with
        | entered name => exact absurd (by simp) (script.entered_not_mem name)
        | attempted _ _ | tested _ _ _ | acted _ _ | marked _ => rfl
    rw [distance, distance, entered]
    apply Prod.Lex.right
    simp only [loadOf, List.map_cons, List.sum_cons]
    omega
  | @enter target name rest frames history procedure fresh found =>
    obtain ⟨_, untouched⟩ := recorded.fresh acyclic fresh (by simp [found]) orderly
    apply Prod.Lex.left
    apply CallGraph.unvisited_cons_lt (mem_targets_of_procedure? found)
    intro listed
    have before : .entered name ∈ record name history :=
      mem_record_iff.mpr (mem_entries_iff.mp listed)
    rw [untouched] at before
    exact absurd before List.not_mem_nil
  | leave =>
    apply Prod.Lex.right
    simp [loadOf]

/-- A run that gets to no cycle comes to an end. -/
theorem exists_finish (acyclic : outline.Acyclic program)
    (describes : outline.Describes program valuation) (configuration : Configuration)
    (orderly : outline.Orderly program valuation configuration)
    (recorded : outline.Recorded program valuation configuration) :
    ∃ count history, program.run valuation count configuration = ⟨[], history⟩ := by
  induction far : distance program configuration
    using (Prod.lex ⟨_, Nat.lt_wfRel.wf⟩ ⟨_, Nat.lt_wfRel.wf⟩).wf.induction
    generalizing configuration with
  | h bound ih =>
    subst far
    cases stepped : program.step valuation configuration with
    | none =>
      obtain ⟨frames, history⟩ := configuration
      match frames with
      | [] => exact ⟨0, history, rfl⟩
      | ⟨_, []⟩ :: _ => cases stepped
      | ⟨_, _ :: _⟩ :: _ => cases stepped
    | some next =>
      have move := move_of_step stepped
      obtain ⟨count, history, finished⟩ := ih _
        (distance_decreases acyclic move orderly recorded) next
        (orderly_move describes move orderly)
        (recorded_move acyclic describes move orderly recorded) rfl
      refine ⟨count + 1, history, ?_⟩
      rw [Program.run, stepped]
      exact finished

/-- The run of a program comes to an end if and only if it gets to no cycle. -/
theorem terminates_iff_acyclic (describes : outline.Describes program valuation) :
    program.Terminates valuation ↔ outline.Acyclic program := by
  constructor
  · rintro ⟨history, count, finished⟩
    have orderly := orderly_run describes count
    rw [finished] at orderly
    exact orderly.acyclic
  · intro acyclic
    obtain ⟨count, history, finished⟩ := exists_finish acyclic describes program.start
      (orderly_start describes) (recorded_start describes)
    exact ⟨history, count, finished⟩

end Outline

end RunOnce.Execution
