import RunOnce.Proofs.Execution.Stack

/-!
# The record of each target

The record of a target is what its own procedure did, in order. As long as no
target that the run gets to lies on a cycle, no procedure is entered while it is
on the stack, and none is entered after its flag is set. So every record is empty,
or that of a single entry which is still going on, or a complete script.
-/

namespace RunOnce.Execution

open Relation
open RunOnce.Generated

/-! ## Records -/

/-- What the procedure of a target did itself, the first thing first. -/
def record (target : String) (history : History) : List Occurrence :=
  (history.filter fun occurrence => occurrence.actor = target).reverse

@[simp]
theorem record_nil (target : String) : record target [] = [] :=
  rfl

theorem record_cons (target : String) (occurrence : Occurrence) (history : History) :
    record target (occurrence :: history) =
      record target history ++ if occurrence.actor = target then [occurrence] else [] := by
  by_cases own : occurrence.actor = target <;> simp [record, own]

theorem mem_record_iff {occurrence : Occurrence} {history : History} :
    occurrence ∈ record occurrence.actor history ↔ occurrence ∈ history := by
  simp [record]

theorem count_record (occurrence : Occurrence) (history : History) :
    (record occurrence.actor history).count occurrence = history.count occurrence := by
  rw [record, List.count_reverse, List.count_filter (by simp)]

namespace Outline

variable {outline : Outline} {program : Program} {valuation : Valuation}

/-- What is asked of an occurrence: whatever was entered and has not set its flag
leads to the target that reaches a call or sets its flag. -/
def Nested (outline : Outline) (program : Program) : Occurrence → History → Prop
  | .attempted target _, earlier | .marked target, earlier =>
    ∀ name, .entered name ∈ earlier →
      Flagged earlier name ∨ ReflTransGen (outline.Live program) name target
  | .entered _, _ | .tested _ _ _, _ | .acted _ _, _ => True

/-- What holds all along a run that gets to no cycle. -/
structure Recorded (outline : Outline) (program : Program) (valuation : Valuation)
    (configuration : Configuration) : Prop where
  going : ∀ frame ∈ configuration.frames,
    ∃ done, record frame.target configuration.history = .entered frame.target :: done ∧
      outline.Resumes valuation frame done
  ended : ∀ name ∉ configuration.frames.map Frame.target,
    record name configuration.history = [] ∨
      ∃ done, record name configuration.history = .entered name :: done ∧ outline.Script name done
  nested : Obeys (outline.Nested program) configuration.history

/-! ## The invariant is kept -/

/-- Every deeper procedure on the stack calls its way up to the latest one. -/
theorem Stacked.transGen {history : History} {current : Option String} {top : Frame}
    {below : List Frame}
    (stacked : outline.Stacked program valuation history current (top :: below)) :
    ∀ frame ∈ below, TransGen (outline.Live program) frame.target top.target := by
  cases below with
  | nil => simp
  | cons next deeper =>
    intro frame listed
    exact TransGen.tail' (stacked.2.reflTransGen frame listed) (stacked.2.1.calls _ rfl)

/-- Without cycles, no procedure is on the stack twice. -/
theorem Stacked.target_not_mem (acyclic : outline.Acyclic program) {history : History}
    {current : Option String} {top : Frame} {below : List Frame}
    (stacked : outline.Stacked program valuation history current (top :: below)) :
    top.target ∉ below.map Frame.target := by
  intro listed
  obtain ⟨frame, deeper, same⟩ := List.mem_map.mp listed
  have cycle := stacked.transGen frame deeper
  rw [same] at cycle
  exact acyclic _ stacked.1.reached cycle

/-- Whatever has been entered and is not over leads to the latest procedure. -/
theorem Orderly.nested {top : Frame} {frames : List Frame} {history : History}
    (orderly : outline.Orderly program valuation ⟨top :: frames, history⟩) (name : String)
    (entered : .entered name ∈ history) :
    Flagged history name ∨ ReflTransGen (outline.Live program) name top.target := by
  rcases orderly.open_or_flagged name entered with flagged | onStack
  · exact .inl flagged
  · obtain ⟨frame, listed, rfl⟩ := List.mem_map.mp onStack
    exact .inr (orderly.stacked.reflTransGen frame listed)

theorem recorded_start (describes : outline.Describes program valuation) :
    outline.Recorded program valuation program.start := by
  rw [Program.start, Program.call]
  split
  · exact ⟨by simp, fun _ _ => .inl rfl, trivial⟩
  · rename_i procedure found
    refine ⟨?_, ?_, ⟨trivial, trivial⟩⟩
    · intro frame listed
      cases List.mem_singleton.mp listed
      exact ⟨[], by simp [record_cons, Occurrence.actor], fun _ course => describes found course⟩
    · intro name absent
      have other : program.entry ≠ name := (List.ne_of_not_mem_cons absent).symm
      exact .inl (by simp [record_cons, Occurrence.actor, other])

theorem recorded_advance (acyclic : outline.Acyclic program) {target : String}
    {statements rest : List Statement} {frames : List Frame} {history : History}
    {made : Option Occurrence}
    (course : ∀ more, Course valuation target rest more →
      Course valuation target statements (made.toList ++ more))
    (orderly : outline.Orderly program valuation ⟨⟨target, statements⟩ :: frames, history⟩)
    (recorded : outline.Recorded program valuation ⟨⟨target, statements⟩ :: frames, history⟩) :
    outline.Recorded program valuation ⟨⟨target, rest⟩ :: frames, made.toList ++ history⟩ := by
  obtain ⟨going, ended, nested⟩ := recorded
  have alone := orderly.stacked.target_not_mem acyclic
  obtain ⟨done, doneSoFar, resumes⟩ := going _ List.mem_cons_self
  obtain ⟨more, script⟩ := (resumes.advance course).exists_script
  have own : ∀ occurrence ∈ made, occurrence.actor = target := by
    intro occurrence listed
    exact script.actor_eq (by simp [Option.mem_toList.mpr listed])
  have recordOwn : record target (made.toList ++ history) =
      record target history ++ made.toList := by
    cases made with
    | none => simp
    | some occurrence => simp [record_cons, own]
  have recordOther : ∀ name, name ≠ target →
      record name (made.toList ++ history) = record name history := by
    intro name other
    cases made with
    | none => rfl
    | some occurrence => simp [record_cons, own, other.symm]
  refine ⟨?_, ?_, ?_⟩
  · intro frame listed
    rcases List.mem_cons.mp listed with rfl | deeper
    · refine ⟨done ++ made.toList, ?_, resumes.advance course⟩
      rw [recordOwn, doneSoFar, List.cons_append]
    · have other : frame.target ≠ target := by
        intro same
        exact alone (List.mem_map.mpr ⟨frame, deeper, same⟩)
      obtain ⟨doneThere, soFar, resumesThere⟩ := going frame (List.mem_cons_of_mem _ deeper)
      exact ⟨doneThere, (recordOther _ other).trans soFar, resumesThere⟩
  · intro name absent
    have other : name ≠ target := by
      rintro rfl
      exact absent (by simp)
    rw [recordOther name other]
    exact ended name absent
  · cases made with
    | none => exact nested
    | some occurrence =>
      refine ⟨?_, nested⟩
      have ownOccurrence := own _ rfl
      cases occurrence with
      | attempted _ _ | marked _ =>
        cases ownOccurrence
        exact orderly.nested
      | entered _ | tested _ _ _ | acted _ _ => trivial

/-- Without cycles, a target whose flag is not set is called only when it has
never been entered. -/
theorem Recorded.fresh (acyclic : outline.Acyclic program) {target name : String}
    {rest : List Statement} {frames : List Frame} {history : History}
    (fresh : ¬Flagged history name) (callable : program.procedure? name ≠ none)
    (orderly : outline.Orderly program valuation
      ⟨⟨target, .callOnce name :: rest⟩ :: frames, history⟩)
    (recorded : outline.Recorded program valuation
      ⟨⟨target, .callOnce name :: rest⟩ :: frames, history⟩) :
    name ∉ target :: frames.map Frame.target ∧ record name history = [] := by
  have live := orderly.stacked.1.live callable
  have absent : name ∉ target :: frames.map Frame.target := by
    intro onStack
    obtain ⟨frame, listed, rfl⟩ := List.mem_map.mp
      (show name ∈ List.map Frame.target (⟨target, .callOnce name :: rest⟩ :: frames) from onStack)
    have path := orderly.stacked.reflTransGen frame listed
    exact acyclic _ (orderly.stacked.1.reached.tail live) (TransGen.tail' path live)
  refine ⟨absent, ?_⟩
  rcases recorded.ended name absent with untouched | ⟨done, whole, script⟩
  · exact untouched
  · have marked : .marked name ∈ record name history := by
      rw [whole]
      exact List.mem_cons_of_mem _ script.marked_mem
    exact absurd (mem_record_iff.mp marked) fresh

theorem recorded_enter (acyclic : outline.Acyclic program)
    (describes : outline.Describes program valuation) {target name : String}
    {rest : List Statement} {frames : List Frame} {history : History} {procedure : Procedure}
    (fresh : ¬Flagged history name) (found : program.procedure? name = some procedure)
    (orderly : outline.Orderly program valuation
      ⟨⟨target, .callOnce name :: rest⟩ :: frames, history⟩)
    (recorded : outline.Recorded program valuation
      ⟨⟨target, .callOnce name :: rest⟩ :: frames, history⟩) :
    outline.Recorded program valuation ⟨⟨name, procedure.body⟩ :: ⟨target, rest⟩ :: frames,
      .entered name :: .attempted target name :: history⟩ := by
  obtain ⟨absent, untouched⟩ := recorded.fresh acyclic fresh (by simp [found]) orderly
  have notTarget := List.ne_of_not_mem_cons absent
  have notDeeper := List.not_mem_of_not_mem_cons absent
  have alone := orderly.stacked.target_not_mem acyclic
  obtain ⟨going, ended, nested⟩ := recorded
  have recordName : record name (.entered name :: .attempted target name :: history) =
      [.entered name] := by
    simp [record_cons, Occurrence.actor, notTarget.symm, untouched]
  have recordOwn : record target (.entered name :: .attempted target name :: history) =
      record target history ++ [.attempted target name] := by
    simp [record_cons, Occurrence.actor, notTarget]
  have recordOther : ∀ other, other ≠ name → other ≠ target →
      record other (.entered name :: .attempted target name :: history) =
        record other history := by
    intro other notEntered notCaller
    simp [record_cons, Occurrence.actor, notEntered.symm, notCaller.symm]
  refine ⟨?_, ?_, ⟨trivial, orderly.nested, nested⟩⟩
  · intro frame listed
    rcases List.mem_cons.mp listed with rfl | listed
    · exact ⟨[], recordName, fun _ course => describes found course⟩
    · rcases List.mem_cons.mp listed with rfl | deeper
      · obtain ⟨done, soFar, resumes⟩ := going _ List.mem_cons_self
        refine ⟨done ++ [.attempted target name], ?_, resumes.advance fun _ => .call⟩
        rw [recordOwn, soFar, List.cons_append]
      · obtain ⟨done, soFar, resumes⟩ := going frame (List.mem_cons_of_mem _ deeper)
        have onStack := List.mem_map_of_mem (f := Frame.target) deeper
        refine ⟨done, (recordOther _ ?_ ?_).trans soFar, resumes⟩
        · exact ne_of_mem_of_not_mem onStack notDeeper
        · exact ne_of_mem_of_not_mem onStack alone
  · intro other absentThere
    have absentBelow := List.not_mem_of_not_mem_cons absentThere
    rw [recordOther other (List.ne_of_not_mem_cons absentThere)
      (List.ne_of_not_mem_cons absentBelow)]
    exact ended other absentBelow

theorem recorded_leave {target : String} {frames : List Frame} {history : History}
    (recorded : outline.Recorded program valuation ⟨⟨target, []⟩ :: frames, history⟩) :
    outline.Recorded program valuation ⟨frames, history⟩ := by
  obtain ⟨going, ended, nested⟩ := recorded
  refine ⟨fun frame deeper => going frame (List.mem_cons_of_mem _ deeper), ?_, nested⟩
  intro name absent
  by_cases same : name = target
  · subst same
    obtain ⟨done, whole, resumes⟩ := going _ List.mem_cons_self
    have script := resumes [] .done
    rw [List.append_nil] at script
    exact .inr ⟨done, whole, script⟩
  · exact ended name (List.not_mem_cons_of_ne_of_not_mem same absent)

theorem recorded_move (acyclic : outline.Acyclic program)
    (describes : outline.Describes program valuation) {configuration next : Configuration}
    (move : Move program valuation configuration next)
    (orderly : outline.Orderly program valuation configuration)
    (recorded : outline.Recorded program valuation configuration) :
    outline.Recorded program valuation next := by
  cases move with
  | advance made _ course _ => exact recorded_advance acyclic course orderly recorded
  | enter fresh found => exact recorded_enter acyclic describes fresh found orderly recorded
  | leave => exact recorded_leave recorded

/-- The invariant holds all along a run that gets to no cycle. -/
theorem recorded_run (acyclic : outline.Acyclic program)
    (describes : outline.Describes program valuation) (count : Nat) :
    outline.Recorded program valuation (program.run valuation count program.start) := by
  have keeps : ∀ {configuration next}, Move program valuation configuration next →
      outline.Orderly program valuation configuration ∧
        outline.Recorded program valuation configuration →
      outline.Orderly program valuation next ∧ outline.Recorded program valuation next := by
    rintro configuration next move ⟨orderly, recorded⟩
    exact ⟨orderly_move describes move orderly,
      recorded_move acyclic describes move orderly recorded⟩
  exact (run_induction keeps count ⟨orderly_start describes, recorded_start describes⟩).2

end Outline

end RunOnce.Execution
