import RunOnce.Proofs.Execution.Outline
import RunOnce.Proofs.Ordering.Cycle

/-!
# The stack of a run

Each procedure on the stack has reached some of its calls. A call that was
reached is over, and the flag of its target is set, unless it is the one that
the next procedure on the stack comes from. It follows that a procedure sets its
flag only after the flags of all targets it calls. So the flags of a run that
comes to an end were set in a settled order, and no target that the run got to
lies on a cycle.
-/

namespace RunOnce.Execution

open Relation
open RunOnce.Generated
open RunOnce.Ordering

/-! ## Histories -/

theorem Flagged.append {history : History} {target : String} (flagged : Flagged history target)
    (later : History) : Flagged (later ++ history) target :=
  List.mem_append_right later flagged

/-- Whether every occurrence of a history obeys a law, given what happened
before it. -/
def Obeys (law : Occurrence → History → Prop) : History → Prop
  | [] => True
  | occurrence :: earlier => law occurrence earlier ∧ Obeys law earlier

/-- A law holds wherever a history is cut. -/
theorem Obeys.of_append {law : Occurrence → History → Prop} {later earlier : History}
    {occurrence : Occurrence} (obeys : Obeys law (later ++ occurrence :: earlier)) :
    law occurrence earlier := by
  induction later with
  | nil => exact obeys.1
  | cons _ _ ih => exact ih obeys.2

/-- The targets whose flags were set, the latest first. -/
def marks (history : History) : List String :=
  history.filterMap fun
    | .marked target => some target
    | _ => none

theorem mem_marks_iff {history : History} {target : String} :
    target ∈ marks history ↔ Flagged history target := by
  simp only [marks, List.mem_filterMap, Flagged]
  constructor
  · rintro ⟨occurrence, listed, same⟩
    cases occurrence <;> cases same
    exact listed
  · intro listed
    exact ⟨_, listed, rfl⟩

namespace Outline

variable {outline : Outline} {program : Program} {valuation : Valuation}

/-- What is asked of an occurrence: a target is entered only if the run gets to
its procedure, its body acts only after the calls ahead of it, and its flag is set only
after all of its calls. -/
def CallsFirst (outline : Outline) (program : Program) : Occurrence → History → Prop
  | .entered target, _ => program.procedure? target ≠ none ∧ outline.Reached program target
  | .acted target _, earlier =>
    ∀ name ∈ outline.early target, program.procedure? name ≠ none → Flagged earlier name
  | .marked target, earlier => ∀ name, outline.Live program target name → Flagged earlier name
  | .attempted _ _, _ | .tested _ _ _, _ => True

/-- Flags that are set only after the calls of their targets are set in a settled
order. -/
theorem settled_marks {history : History} (obeys : Obeys (outline.CallsFirst program) history) :
    Settled (outline.Live program) (marks history) := by
  induction history with
  | nil => trivial
  | cons occurrence earlier ih =>
    cases occurrence with
    | marked target =>
      refine ⟨fun name live => ?_, ih obeys.2⟩
      exact mem_marks_iff.mpr (obeys.1 name live)
    | entered _ | attempted _ _ | tested _ _ _ | acted _ _ => exact ih obeys.2

/-! ## Frames -/

/-- Whether a procedure that has done something so far will have followed the
script of its target in the end. -/
def Resumes (outline : Outline) (valuation : Valuation) (frame : Frame)
    (done : List Occurrence) : Prop :=
  ∀ more, Course valuation frame.target frame.rest more →
    outline.Script frame.target (done ++ more)

/-- What a procedure does next adds to what it has done. -/
theorem Resumes.advance {target : String} {statements rest : List Statement}
    {done made : List Occurrence} (resumes : outline.Resumes valuation ⟨target, statements⟩ done)
    (course : ∀ more, Course valuation target rest more →
      Course valuation target statements (made ++ more)) :
    outline.Resumes valuation ⟨target, rest⟩ (done ++ made) := by
  intro more later
  rw [List.append_assoc]
  exact resumes _ (course more later)

/-- What a procedure has done is the beginning of a script. -/
theorem Resumes.exists_script {frame : Frame} {done : List Occurrence}
    (resumes : outline.Resumes valuation frame done) :
    ∃ more, outline.Script frame.target (done ++ more) := by
  obtain ⟨more, later⟩ := exists_course valuation frame.target frame.rest
  exact ⟨more, resumes more later⟩

/-- How a procedure stands, with the target that it is calling at the moment, if
any. -/
structure Standing (outline : Outline) (program : Program) (valuation : Valuation)
    (history : History) (current : Option String) (frame : Frame) : Prop where
  known : program.procedure? frame.target ≠ none
  reached : outline.Reached program frame.target
  calls : ∀ name ∈ current, outline.Live program frame.target name
  resumes : ∃ done ⊆ history, outline.Resumes valuation frame done ∧
    ∀ name, .attempted frame.target name ∈ done → program.procedure? name ≠ none →
      Flagged history name ∨ current = some name

/-- How the procedures on the stack stand. -/
def Stacked (outline : Outline) (program : Program) (valuation : Valuation)
    (history : History) : Option String → List Frame → Prop
  | _, [] => True
  | current, frame :: below =>
    outline.Standing program valuation history current frame ∧
      outline.Stacked program valuation history (some frame.target) below

/-- What has happened since does not change how a procedure stands. -/
theorem Standing.append {history : History} {current : Option String} {frame : Frame}
    (standing : outline.Standing program valuation history current frame) (later : History) :
    outline.Standing program valuation (later ++ history) current frame := by
  obtain ⟨known, reached, calls, done, happened, resumes, settled⟩ := standing
  refine ⟨known, reached, calls, done, ?_, resumes, ?_⟩
  · exact List.Subset.trans happened (List.subset_append_right later history)
  · intro name attempted callee
    exact (settled name attempted callee).imp_left fun flagged => flagged.append later

/-- A call that a procedure is about to make is one of its target's calls. -/
theorem Standing.live {history : History} {current : Option String} {target name : String}
    {rest : List Statement}
    (standing : outline.Standing program valuation history current
      ⟨target, .callOnce name :: rest⟩)
    (callable : program.procedure? name ≠ none) : outline.Live program target name := by
  obtain ⟨known, _, _, done, _, resumes, _⟩ := standing
  have resumesNext : outline.Resumes valuation ⟨target, rest⟩ (done ++ [.attempted target name]) :=
    resumes.advance fun _ => .call
  obtain ⟨more, script⟩ := resumesNext.exists_script
  have listed : .attempted target name ∈ done ++ [.attempted target name] ++ more := by simp
  obtain ⟨runs, calls⟩ := script.calls_of_attempted_mem listed
  exact ⟨known, callable, runs, calls⟩

/-- A procedure that was just entered has done nothing. -/
theorem standing_of_found (describes : outline.Describes program valuation) {name : String}
    {procedure : Procedure} (found : program.procedure? name = some procedure)
    (reached : outline.Reached program name) (history : History) :
    outline.Standing program valuation history none ⟨name, procedure.body⟩ := by
  refine ⟨by simp [found], reached, nofun, [], by simp, ?_, by simp⟩
  intro more course
  exact describes found course

/-- A procedure that has made a call waits for it. -/
theorem Standing.calling {history : History} {target name : String} {rest : List Statement}
    (standing : outline.Standing program valuation history none
      ⟨target, .callOnce name :: rest⟩)
    (callable : program.procedure? name ≠ none) :
    outline.Standing program valuation (.attempted target name :: history) (some name)
      ⟨target, rest⟩ := by
  have live := standing.live callable
  obtain ⟨known, reached, _, done, happened, resumes, settled⟩ := standing
  refine ⟨known, reached, ?_, done ++ [.attempted target name], ?_,
    resumes.advance fun _ => .call, ?_⟩
  · intro other current
    cases current
    exact live
  · intro occurrence listed
    rcases List.mem_append.mp listed with old | new
    · exact List.mem_cons_of_mem _ (happened old)
    · cases List.mem_singleton.mp new
      exact List.mem_cons_self
  · intro other attempted callee
    rcases List.mem_append.mp attempted with old | new
    · rcases settled other old callee with flagged | current
      · exact .inl (flagged.append [_])
      · cases current
    · cases List.mem_singleton.mp new
      exact .inr rfl

/-- A procedure that goes on by itself waits for nothing. -/
theorem Standing.advance {history : History} {target : String} {statements rest : List Statement}
    {made : Option Occurrence}
    (standing : outline.Standing program valuation history none ⟨target, statements⟩)
    (blocked : ∀ name, made = some (.attempted target name) →
      Flagged history name ∨ program.procedure? name = none)
    (course : ∀ more, Course valuation target rest more →
      Course valuation target statements (made.toList ++ more)) :
    outline.Standing program valuation (made.toList ++ history) none ⟨target, rest⟩ := by
  obtain ⟨known, reached, _, done, happened, resumes, settled⟩ := standing
  refine ⟨known, reached, nofun, done ++ made.toList, ?_, resumes.advance course, ?_⟩
  · intro occurrence listed
    rcases List.mem_append.mp listed with old | new
    · exact List.mem_append_right _ (happened old)
    · exact List.mem_append_left _ new
  · intro name attempted callee
    rcases List.mem_append.mp attempted with old | new
    · rcases settled name old callee with flagged | current
      · exact .inl (flagged.append _)
      · cases current
    · rcases blocked name (Option.mem_toList.mp new) with flagged | unknown
      · exact .inl (flagged.append _)
      · exact absurd unknown callee

theorem Stacked.append {history : History} {current : Option String} {frames : List Frame}
    (stacked : outline.Stacked program valuation history current frames) (later : History) :
    outline.Stacked program valuation (later ++ history) current frames := by
  induction frames generalizing current with
  | nil => trivial
  | cons frame below ih => exact ⟨stacked.1.append later, ih stacked.2⟩

/-- Once the flag of a called target is set, its call is over. -/
theorem Stacked.returned {history : History} {name : String} {frames : List Frame}
    (stacked : outline.Stacked program valuation history (some name) frames)
    (flagged : Flagged history name) :
    outline.Stacked program valuation history none frames := by
  cases frames with
  | nil => trivial
  | cons frame below =>
    obtain ⟨⟨known, reached, _, done, happened, resumes, settled⟩, others⟩ := stacked
    refine ⟨⟨known, reached, nofun, done, happened, resumes, ?_⟩, others⟩
    intro other attempted callee
    rcases settled other attempted callee with ended | same
    · exact .inl ended
    · cases same
      exact .inl flagged

/-- Every procedure on the stack leads to the latest one. -/
theorem Stacked.reflTransGen {history : History} {current : Option String} {top : Frame}
    {below : List Frame}
    (stacked : outline.Stacked program valuation history current (top :: below)) :
    ∀ frame ∈ top :: below, ReflTransGen (outline.Live program) frame.target top.target := by
  induction below generalizing current top with
  | nil =>
    intro frame listed
    cases List.mem_singleton.mp listed
    exact .refl
  | cons next below ih =>
    intro frame listed
    rcases List.mem_cons.mp listed with rfl | deeper
    · exact .refl
    · exact (ih stacked.2 frame deeper).tail (stacked.2.1.calls _ rfl)

/-! ## Invariant -/

/-- What holds all along a run. -/
structure Orderly (outline : Outline) (program : Program) (valuation : Valuation)
    (configuration : Configuration) : Prop where
  stacked : outline.Stacked program valuation configuration.history none configuration.frames
  obeys : Obeys (outline.CallsFirst program) configuration.history
  open_or_flagged : ∀ name, .entered name ∈ configuration.history →
    Flagged configuration.history name ∨ name ∈ configuration.frames.map Frame.target
  started : program.procedure? program.entry ≠ none →
    .entered program.entry ∈ configuration.history

theorem orderly_start (describes : outline.Describes program valuation) :
    outline.Orderly program valuation program.start := by
  rw [Program.start, Program.call]
  split
  · rename_i unknown
    exact ⟨trivial, trivial, by simp, fun known => absurd unknown known⟩
  · rename_i procedure found
    have known : program.procedure? program.entry ≠ none := by simp [found]
    refine ⟨⟨standing_of_found describes found .refl _, trivial⟩, ⟨⟨known, .refl⟩, trivial⟩,
      ?_, ?_⟩
    · intro name entered
      cases List.mem_singleton.mp entered
      exact .inr (by simp)
    · intro _
      exact List.mem_singleton.mpr rfl

/-- What a procedure does next is in order once its calls so far are over. -/
theorem callsFirst_of_script {target : String} {done more : List Occurrence}
    {occurrence : Occurrence} {history : History}
    (script : outline.Script target (done ++ occurrence :: more))
    (settled : ∀ name, .attempted target name ∈ done → program.procedure? name ≠ none →
      Flagged history name) :
    outline.CallsFirst program occurrence history := by
  have own : occurrence.actor = target := script.actor_eq (by simp)
  cases occurrence with
  | entered name => exact absurd (by simp) (script.entered_not_mem name)
  | attempted _ _ | tested _ _ _ => trivial
  | acted _ action =>
    cases own
    intro name called known
    exact settled name (script.early_of_acted called) known
  | marked _ =>
    cases own
    intro name live
    exact settled name (script.calls_of_marked live.runs live.calls) live.callee_known

theorem orderly_advance {target : String} {statements rest : List Statement}
    {frames : List Frame} {history : History} {made : Option Occurrence}
    (blocked : ∀ name, made = some (.attempted target name) →
      Flagged history name ∨ program.procedure? name = none)
    (course : ∀ more, Course valuation target rest more →
      Course valuation target statements (made.toList ++ more))
    (orderly : outline.Orderly program valuation ⟨⟨target, statements⟩ :: frames, history⟩) :
    outline.Orderly program valuation ⟨⟨target, rest⟩ :: frames, made.toList ++ history⟩ := by
  obtain ⟨⟨standing, others⟩, obeys, remembers, started⟩ := orderly
  have standingNext := standing.advance blocked course
  obtain ⟨_, _, _, done, _, resumes, settled⟩ := standing
  obtain ⟨more, script⟩ := (resumes.advance course).exists_script
  rw [List.append_assoc] at script
  refine ⟨⟨standingNext, others.append _⟩, ?_, ?_, ?_⟩
  · cases made with
    | none => exact obeys
    | some occurrence =>
      refine ⟨callsFirst_of_script script ?_, obeys⟩
      intro name attempted callee
      exact (settled name attempted callee).resolve_right nofun
  · intro name entered
    rcases List.mem_append.mp entered with new | old
    · have listed : .entered name ∈ done ++ (made.toList ++ more) := by simp [new]
      exact absurd listed (script.entered_not_mem name)
    · exact (remembers name old).imp_left fun flagged => flagged.append _
  · intro callable
    exact List.mem_append_right _ (started callable)

theorem orderly_enter (describes : outline.Describes program valuation)
    {target name : String} {rest : List Statement} {frames : List Frame} {history : History}
    {procedure : Procedure} (found : program.procedure? name = some procedure)
    (orderly : outline.Orderly program valuation
      ⟨⟨target, .callOnce name :: rest⟩ :: frames, history⟩) :
    outline.Orderly program valuation ⟨⟨name, procedure.body⟩ :: ⟨target, rest⟩ :: frames,
      .entered name :: .attempted target name :: history⟩ := by
  have callable : program.procedure? name ≠ none := by simp [found]
  obtain ⟨⟨standing, others⟩, obeys, remembers, started⟩ := orderly
  have reached : outline.Reached program name := standing.reached.tail (standing.live callable)
  refine ⟨⟨standing_of_found describes found reached _, (standing.calling callable).append [_],
    others.append [_, _]⟩, ⟨⟨callable, reached⟩, trivial, obeys⟩, ?_, ?_⟩
  · intro other entered
    rcases List.mem_cons.mp entered with same | old
    · cases same
      exact .inr (by simp)
    · rcases List.mem_cons.mp old with same | older
      · cases same
      · rcases remembers other older with flagged | stacked
        · exact .inl (flagged.append [_, _])
        · exact .inr (List.mem_cons_of_mem _ stacked)
  · intro callable
    exact List.mem_cons_of_mem _ (List.mem_cons_of_mem _ (started callable))

/-- A procedure that is left has set its flag. -/
theorem Stacked.flagged_of_done {history : History} {current : Option String} {target : String}
    {frames : List Frame}
    (stacked : outline.Stacked program valuation history current (⟨target, []⟩ :: frames)) :
    Flagged history target := by
  obtain ⟨_, _, _, done, happened, resumes, _⟩ := stacked.1
  have script := resumes [] .done
  rw [List.append_nil] at script
  exact happened script.marked_mem

theorem orderly_leave {target : String} {frames : List Frame} {history : History}
    (orderly : outline.Orderly program valuation ⟨⟨target, []⟩ :: frames, history⟩) :
    outline.Orderly program valuation ⟨frames, history⟩ := by
  obtain ⟨stacked, obeys, remembers, started⟩ := orderly
  have flagged := stacked.flagged_of_done
  refine ⟨stacked.2.returned flagged, obeys, ?_, started⟩
  intro name entered
  rcases remembers name entered with marked | onStack
  · exact .inl marked
  · rcases List.mem_cons.mp onStack with rfl | deeper
    · exact .inl flagged
    · exact .inr deeper

theorem orderly_move (describes : outline.Describes program valuation)
    {configuration next : Configuration} (move : Move program valuation configuration next)
    (orderly : outline.Orderly program valuation configuration) :
    outline.Orderly program valuation next := by
  cases move with
  | advance made blocked course _ => exact orderly_advance blocked course orderly
  | enter _ found => exact orderly_enter describes found orderly
  | leave => exact orderly_leave orderly

/-- The invariant holds all along the run of a program. -/
theorem orderly_run (describes : outline.Describes program valuation) (count : Nat) :
    outline.Orderly program valuation (program.run valuation count program.start) :=
  run_induction (orderly_move describes) count (orderly_start describes)

/-! ## Runs that come to an end -/

/-- When a run comes to an end, the flags of all targets it gets to are set. -/
theorem Orderly.flagged_of_reached {history : History}
    (orderly : outline.Orderly program valuation ⟨[], history⟩) {target : String}
    (reached : outline.Reached program target) (known : program.procedure? target ≠ none) :
    Flagged history target := by
  induction reached with
  | refl =>
    exact (orderly.open_or_flagged _ (orderly.started known)).resolve_right List.not_mem_nil
  | tail _ live ih =>
    have before := mem_marks_iff.mpr (ih live.caller_known)
    exact mem_marks_iff.mp ((settled_marks orderly.obeys).mem_of_next before live)

/-- When a run comes to an end, no target that it gets to lies on a cycle. -/
theorem Orderly.acyclic {history : History}
    (orderly : outline.Orderly program valuation ⟨[], history⟩) : outline.Acyclic program := by
  intro target reached cycle
  obtain ⟨_, live, _⟩ := TransGen.head'_iff.mp cycle
  have flagged := orderly.flagged_of_reached reached live.caller_known
  exact (settled_marks orderly.obeys).not_transGen_self (mem_marks_iff.mpr flagged) cycle

end Outline

end RunOnce.Execution
