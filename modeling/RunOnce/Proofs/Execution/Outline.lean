import Mathlib.Logic.Relation
import RunOnce.Proofs.Execution.Course

/-!
# Outlines of programs

An outline says what the procedure of each target does: whether it is skipped,
which targets it calls ahead of its body and after it, and which actions stand
in its body. An outline describes a program when the courses of its procedures
are scripts of the outline. What holds of a run is stated through the outline,
so it does not hang on how procedures are written down.
-/

namespace RunOnce.Execution

open Relation
open RunOnce.Generated

/-- What the procedures of targets do. -/
structure Outline where
  /-- Whether a target is skipped. -/
  Skipped : String → Prop
  /-- The calls ahead of the body. -/
  early : String → List String
  /-- The calls after the body. -/
  late : String → List String
  /-- The actions that stand in the body. -/
  actions : String → List Action

namespace Outline

/-- What the procedure of a target may do from beginning to end. -/
inductive Script (outline : Outline) (target : String) : List Occurrence → Prop
  | skipped (skipped : outline.Skipped target) : Script outline target [.marked target]
  | completed {middle : List Occurrence} (runs : ¬outline.Skipped target)
      (inBody : ∀ occurrence ∈ middle, occurrence.InBody target)
      (written : (middle.filterMap Occurrence.action?).Sublist (outline.actions target)) :
      Script outline target
        ((outline.early target).map (.attempted target) ++ middle ++
          (outline.late target).map (.attempted target) ++ [.marked target])

variable {outline : Outline} {target : String}

/-- An occurrence that is no part of the front of a list comes after all of it. -/
theorem subset_of_append_cons_eq {occurrence : Occurrence}
    {done more front back : List Occurrence}
    (same : done ++ occurrence :: more = front ++ back) (apart : occurrence ∉ front) :
    front ⊆ done := by
  rcases List.append_eq_append_iff.mp same with ⟨extra, rfl, rest⟩ | ⟨extra, rfl, _⟩
  · cases extra with
    | nil => simp
    | cons head tail =>
      cases rest
      exact absurd (by simp) apart
  · exact List.subset_append_left _ _

namespace Script

/-- What can stand in a script. -/
theorem cases_of_mem {occurrences : List Occurrence} (script : outline.Script target occurrences)
    {occurrence : Occurrence} (listed : occurrence ∈ occurrences) :
    (∃ name ∈ outline.early target ++ outline.late target,
      ¬outline.Skipped target ∧ occurrence = .attempted target name) ∨
      occurrence.InBody target ∨ occurrence = .marked target := by
  cases script with
  | skipped _ => exact .inr (.inr (List.mem_singleton.mp listed))
  | completed runs inBody _ =>
    simp only [List.mem_append, List.mem_map, List.mem_singleton] at listed ⊢
    rcases listed with ((⟨name, called, rfl⟩ | body) | ⟨name, called, rfl⟩) | marked
    · exact .inl ⟨name, .inl called, runs, rfl⟩
    · exact .inr (.inl (inBody occurrence body))
    · exact .inl ⟨name, .inr called, runs, rfl⟩
    · exact .inr (.inr marked)

/-- All of a script is the target's own doing. -/
theorem actor_eq {occurrences : List Occurrence} (script : outline.Script target occurrences)
    {occurrence : Occurrence} (listed : occurrence ∈ occurrences) : occurrence.actor = target := by
  rcases script.cases_of_mem listed with ⟨_, _, _, rfl⟩ | (⟨_, _, rfl⟩ | ⟨_, rfl⟩) | rfl <;> rfl

/-- A script enters nothing by itself. -/
theorem entered_not_mem {occurrences : List Occurrence}
    (script : outline.Script target occurrences) (name : String) :
    .entered name ∉ occurrences := by
  intro listed
  rcases script.cases_of_mem listed with ⟨_, _, _, same⟩ | (⟨_, _, same⟩ | ⟨_, same⟩) | same <;>
    cases same

/-- A script sets the flag of its target. -/
theorem marked_mem {occurrences : List Occurrence} (script : outline.Script target occurrences) :
    .marked target ∈ occurrences := by
  cases script <;> simp

/-- Only targets that are not skipped make calls, and only the calls that stand
in the outline. -/
theorem calls_of_attempted_mem {occurrences : List Occurrence}
    (script : outline.Script target occurrences) {name : String}
    (listed : .attempted target name ∈ occurrences) :
    ¬outline.Skipped target ∧ name ∈ outline.early target ++ outline.late target := by
  rcases script.cases_of_mem listed with
    ⟨_, called, runs, same⟩ | (⟨_, _, same⟩ | ⟨_, same⟩) | same <;> cases same
  exact ⟨runs, called⟩

/-- When the body acts, the calls ahead of it have been made. -/
theorem early_of_acted {done more : List Occurrence} {action : Action}
    (script : outline.Script target (done ++ .acted target action :: more)) {name : String}
    (called : name ∈ outline.early target) : .attempted target name ∈ done := by
  generalize whole : done ++ .acted target action :: more = occurrences at script
  cases script with
  | skipped _ =>
    have listed : .acted target action ∈ [Occurrence.marked target] := by simp [← whole]
    simp at listed
  | completed _ _ _ =>
    rw [List.append_assoc, List.append_assoc] at whole
    apply subset_of_append_cons_eq whole
    · simp
    · exact List.mem_map_of_mem called

/-- When the flag is set, all calls have been made unless the target is skipped. -/
theorem calls_of_marked {done more : List Occurrence}
    (script : outline.Script target (done ++ .marked target :: more))
    (runs : ¬outline.Skipped target) {name : String}
    (called : name ∈ outline.early target ++ outline.late target) :
    .attempted target name ∈ done := by
  generalize whole : done ++ .marked target :: more = occurrences at script
  cases script with
  | skipped skipped => exact absurd skipped runs
  | completed _ inBody _ =>
    apply subset_of_append_cons_eq whole
    · simp only [List.mem_append, List.mem_map, reduceCtorEq, and_false, exists_false, false_or,
        or_false]
      intro body
      rcases inBody _ body with ⟨_, _, same⟩ | ⟨_, same⟩ <;> cases same
    · rcases List.mem_append.mp called with early | late
      · simp [early]
      · simp [late]

end Script

/-- Whether the procedure of one target calls another one that has a procedure. -/
structure Live (outline : Outline) (program : Program) (caller callee : String) : Prop where
  caller_known : program.procedure? caller ≠ none
  callee_known : program.procedure? callee ≠ none
  runs : ¬outline.Skipped caller
  calls : callee ∈ outline.early caller ++ outline.late caller

/-- Whether the run of a program gets to a target by way of targets that are not
skipped. -/
def Reached (outline : Outline) (program : Program) (target : String) : Prop :=
  ReflTransGen (outline.Live program) program.entry target

/-- Whether no target that the run gets to calls itself in the end. -/
def Acyclic (outline : Outline) (program : Program) : Prop :=
  ∀ target, outline.Reached program target → ¬TransGen (outline.Live program) target target

/-- Whether an outline says what the procedures of a program do. -/
def Describes (outline : Outline) (program : Program) (valuation : Valuation) : Prop :=
  ∀ {target : String} {procedure : Procedure}, program.procedure? target = some procedure →
    ∀ {occurrences : List Occurrence}, Course valuation target procedure.body occurrences →
      outline.Script target occurrences

end Outline

end RunOnce.Execution
