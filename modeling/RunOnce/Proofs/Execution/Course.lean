import RunOnce.Proofs.Execution.Machine

/-!
# The course of a procedure

A procedure decides by itself what it does next; the targets it calls do not
change its mind. Its courses are the sequences of what it can do, one for each
way its tests may come out, with the doings of the called targets left out. The
statements of a body make no calls and set no flags, so a course of a whole
procedure falls apart into the courses of its parts.
-/

namespace RunOnce.Execution

open RunOnce.Generated

/-! ## What statements do -/

mutual

/-- Whether a statement neither calls a target nor sets a flag. -/
def isPlain : Statement → Bool
  | .blank | .remark _ | .comment _ | .assign _ _ | .invoke _ _ => true
  | .skipWhen _ _ | .callOnce _ | .markRun _ => false
  | .guarded _ body => arePlain body

/-- Whether no statement of a sequence calls a target or sets a flag. -/
def arePlain : List Statement → Bool
  | [] => true
  | statement :: rest => isPlain statement && arePlain rest

end

theorem arePlain_append (first second : List Statement) :
    arePlain (first ++ second) = (arePlain first && arePlain second) := by
  induction first with
  | nil => rfl
  | cons statement rest ih => simp [arePlain, ih, Bool.and_assoc]

mutual

/-- The actions that a statement writes down, in order. -/
def actionsOf : Statement → List Action
  | .assign name value => [.assign name value]
  | .invoke task arguments => [.invoke task arguments]
  | .guarded _ body => actionsOfAll body
  | .blank | .remark _ | .comment _ | .skipWhen _ _ | .callOnce _ | .markRun _ => []

/-- The actions that a sequence of statements writes down, in order. -/
def actionsOfAll : List Statement → List Action
  | [] => []
  | statement :: rest => actionsOf statement ++ actionsOfAll rest

end

theorem actionsOfAll_append (first second : List Statement) :
    actionsOfAll (first ++ second) = actionsOfAll first ++ actionsOfAll second := by
  induction first with
  | nil => rfl
  | cons statement rest ih => simp [actionsOfAll, ih]

mutual

/-- How many steps a statement takes at most. -/
def weightOf : Statement → Nat
  | .guarded _ body => weightOfAll body + 1
  | .blank | .remark _ | .comment _ | .skipWhen _ _ | .callOnce _ | .assign _ _ | .invoke _ _
  | .markRun _ => 1

/-- How many steps a sequence of statements takes at most. -/
def weightOfAll : List Statement → Nat
  | [] => 0
  | statement :: rest => weightOf statement + weightOfAll rest

end

theorem weightOfAll_append (first second : List Statement) :
    weightOfAll (first ++ second) = weightOfAll first + weightOfAll second := by
  induction first with
  | nil => simp [weightOfAll]
  | cons statement rest ih => simp [weightOfAll, ih, Nat.add_assoc]

theorem weightOfAll_lt_cons (statement : Statement) (rest : List Statement) :
    weightOfAll rest < weightOfAll (statement :: rest) := by
  rw [weightOfAll]
  cases statement <;> simp [weightOf]

/-! ## What happens -/

namespace Occurrence

/-- The target whose procedure brings an occurrence about. -/
def actor : Occurrence → String
  | entered target => target
  | attempted caller _ => caller
  | tested target _ _ => target
  | acted target _ => target
  | marked target => target

/-- The action of an occurrence that is one. -/
def action? : Occurrence → Option Action
  | acted _ action => some action
  | entered _ | attempted _ _ | tested _ _ _ | marked _ => none

/-- Whether an occurrence belongs to the body of a target. -/
def InBody (target : String) (occurrence : Occurrence) : Prop :=
  (∃ test outcome, occurrence = tested target test outcome) ∨
    ∃ action, occurrence = acted target action

end Occurrence

/-! ## Courses -/

/-- What the procedure of a target may do with the given statements ahead, the
first thing first. -/
inductive Course (valuation : Valuation) (target : String) :
    List Statement → List Occurrence → Prop
  | done : Course valuation target [] []
  | blank {rest more} (later : Course valuation target rest more) :
      Course valuation target (.blank :: rest) more
  | remark {text rest more} (later : Course valuation target rest more) :
      Course valuation target (.remark text :: rest) more
  | comment {text rest more} (later : Course valuation target rest more) :
      Course valuation target (.comment text :: rest) more
  | skip {test name rest} (skips : valuation.skips name = true) :
      Course valuation target (.skipWhen test name :: rest) [.marked name]
  | keep {test name rest more} (runs : valuation.skips name = false)
      (later : Course valuation target rest more) :
      Course valuation target (.skipWhen test name :: rest) more
  | call {name rest more} (later : Course valuation target rest more) :
      Course valuation target (.callOnce name :: rest) (.attempted target name :: more)
  | assign {name value rest more} (later : Course valuation target rest more) :
      Course valuation target (.assign name value :: rest)
        (.acted target (.assign name value) :: more)
  | invoke {task arguments rest more} (later : Course valuation target rest more) :
      Course valuation target (.invoke task arguments :: rest)
        (.acted target (.invoke task arguments) :: more)
  | pass {test body rest more} (later : Course valuation target (body ++ rest) more) :
      Course valuation target (.guarded test body :: rest) (.tested target test true :: more)
  | refuse {test body rest more} (later : Course valuation target rest more) :
      Course valuation target (.guarded test body :: rest) (.tested target test false :: more)
  | mark {name rest more} (later : Course valuation target rest more) :
      Course valuation target (.markRun name :: rest) (.marked name :: more)

variable {valuation : Valuation} {target : String}

/-- There is always a way to go on. -/
theorem exists_course (valuation : Valuation) (target : String) (statements : List Statement) :
    ∃ occurrences, Course valuation target statements occurrences := by
  induction statements with
  | nil => exact ⟨[], .done⟩
  | cons statement rest ih =>
    obtain ⟨more, later⟩ := ih
    cases statement with
    | blank => exact ⟨more, .blank later⟩
    | remark text => exact ⟨more, .remark later⟩
    | comment text => exact ⟨more, .comment later⟩
    | skipWhen test name =>
      cases skips : valuation.skips name with
      | true => exact ⟨_, .skip skips⟩
      | false => exact ⟨more, .keep skips later⟩
    | callOnce name => exact ⟨_, .call later⟩
    | assign name value => exact ⟨_, .assign later⟩
    | invoke task arguments => exact ⟨_, .invoke later⟩
    | guarded test body => exact ⟨_, .refuse later⟩
    | markRun name => exact ⟨_, .mark later⟩

namespace Course

/-- The course of a plain segment comes to its end before the course of what
follows it. Its occurrences belong to the body, and its actions are written down
in the segment, in the same order. -/
theorem exists_of_plain_append {segment rest : List Statement} {occurrences : List Occurrence}
    (course : Course valuation target (segment ++ rest) occurrences)
    (plain : arePlain segment = true) :
    ∃ middle more, occurrences = middle ++ more ∧ Course valuation target rest more ∧
      (∀ occurrence ∈ middle, occurrence.InBody target) ∧
      (middle.filterMap Occurrence.action?).Sublist (actionsOfAll segment) := by
  induction size : weightOfAll segment using Nat.strongRecOn generalizing segment occurrences with
  | ind size ih =>
    subst size
    cases segment with
    | nil => exact ⟨[], occurrences, rfl, course, by simp, by simp⟩
    | cons statement others =>
      obtain ⟨plainFirst, plainOthers⟩ := Bool.and_eq_true_iff.mp plain
      have shorter := weightOfAll_lt_cons statement others
      rw [List.cons_append] at course
      cases statement with
      | blank =>
        cases course with
        | blank later =>
          obtain ⟨middle, more, rfl, after, inBody, written⟩ := ih _ shorter later plainOthers rfl
          exact ⟨middle, more, rfl, after, inBody, written⟩
      | remark text =>
        cases course with
        | remark later =>
          obtain ⟨middle, more, rfl, after, inBody, written⟩ := ih _ shorter later plainOthers rfl
          exact ⟨middle, more, rfl, after, inBody, written⟩
      | comment text =>
        cases course with
        | comment later =>
          obtain ⟨middle, more, rfl, after, inBody, written⟩ := ih _ shorter later plainOthers rfl
          exact ⟨middle, more, rfl, after, inBody, written⟩
      | skipWhen | callOnce | markRun => cases plainFirst
      | assign name value =>
        cases course with
        | assign later =>
          obtain ⟨middle, more, rfl, after, inBody, written⟩ := ih _ shorter later plainOthers rfl
          exact ⟨_ :: middle, more, rfl, after,
            List.forall_mem_cons.mpr ⟨.inr ⟨_, rfl⟩, inBody⟩, written.cons_cons _⟩
      | invoke task arguments =>
        cases course with
        | invoke later =>
          obtain ⟨middle, more, rfl, after, inBody, written⟩ := ih _ shorter later plainOthers rfl
          exact ⟨_ :: middle, more, rfl, after,
            List.forall_mem_cons.mpr ⟨.inr ⟨_, rfl⟩, inBody⟩, written.cons_cons _⟩
      | guarded test body =>
        cases course with
        | pass later =>
          rw [← List.append_assoc] at later
          have plainBoth : arePlain (body ++ others) = true := by
            rw [arePlain_append]
            exact Bool.and_eq_true_iff.mpr ⟨plainFirst, plainOthers⟩
          have lighter : weightOfAll (body ++ others) <
              weightOfAll (.guarded test body :: others) := by
            simp [weightOfAll_append, weightOfAll, weightOf]
          obtain ⟨middle, more, rfl, after, inBody, written⟩ := ih _ lighter later plainBoth rfl
          rw [actionsOfAll_append] at written
          exact ⟨_ :: middle, more, rfl, after,
            List.forall_mem_cons.mpr ⟨.inl ⟨_, _, rfl⟩, inBody⟩, written⟩
        | refuse later =>
          obtain ⟨middle, more, rfl, after, inBody, written⟩ := ih _ shorter later plainOthers rfl
          exact ⟨_ :: middle, more, rfl, after,
            List.forall_mem_cons.mpr ⟨.inl ⟨_, _, rfl⟩, inBody⟩,
            written.trans (List.sublist_append_right _ _)⟩

end Course

/-! ## What a step can do -/

/-- The three things that a step can do: the latest procedure goes on by itself,
it enters another one, or it is left. -/
inductive Move (program : Program) (valuation : Valuation) : Configuration → Configuration → Prop
  | advance {target : String} {statements rest : List Statement} {frames : List Frame}
      {history : History} (made : Option Occurrence)
      (blocked : ∀ name, made = some (.attempted target name) →
        Flagged history name ∨ program.procedure? name = none)
      (course : ∀ more, Course valuation target rest more →
        Course valuation target statements (made.toList ++ more))
      (lighter : weightOfAll rest < weightOfAll statements) :
      Move program valuation ⟨⟨target, statements⟩ :: frames, history⟩
        ⟨⟨target, rest⟩ :: frames, made.toList ++ history⟩
  | enter {target name : String} {rest : List Statement} {frames : List Frame}
      {history : History} {procedure : Procedure} (fresh : ¬Flagged history name)
      (found : program.procedure? name = some procedure) :
      Move program valuation ⟨⟨target, .callOnce name :: rest⟩ :: frames, history⟩
        ⟨⟨name, procedure.body⟩ :: ⟨target, rest⟩ :: frames,
          .entered name :: .attempted target name :: history⟩
  | leave {target : String} {frames : List Frame} {history : History} :
      Move program valuation ⟨⟨target, []⟩ :: frames, history⟩ ⟨frames, history⟩

/-- A statement lets its procedure go on by itself, unless it calls a target that
has a procedure and no flag yet. -/
theorem move_perform (program : Program) (valuation : Valuation) (target : String)
    (rest : List Statement) (frames : List Frame) (history : History) (statement : Statement) :
    Move program valuation ⟨⟨target, statement :: rest⟩ :: frames, history⟩
      (program.perform valuation target rest frames history statement) := by
  have lighter := weightOfAll_lt_cons statement rest
  cases statement with
  | blank => exact .advance none nofun (fun _ => .blank) lighter
  | remark text => exact .advance none nofun (fun _ => .remark) lighter
  | comment text => exact .advance none nofun (fun _ => .comment) lighter
  | skipWhen test name =>
    rw [Program.perform]
    split
    · rename_i skips
      refine .advance (some (.marked name)) nofun ?_ ?_
      · intro more ended
        cases ended
        exact .skip skips
      · exact Nat.lt_of_le_of_lt (Nat.zero_le _) lighter
    · rename_i runs
      exact .advance none nofun (fun _ => .keep (Bool.eq_false_iff.mpr runs)) lighter
  | callOnce name =>
    rw [Program.perform]
    split
    · rename_i flagged
      refine .advance (some (.attempted target name)) ?_ (fun _ => .call) lighter
      intro other same
      cases same
      exact .inl flagged
    · rename_i fresh
      rw [Program.call]
      split
      · rename_i unknown
        refine .advance (some (.attempted target name)) ?_ (fun _ => .call) lighter
        intro other same
        cases same
        exact .inr unknown
      · rename_i procedure found
        exact .enter fresh found
  | assign name value => exact .advance (some _) nofun (fun _ => .assign) lighter
  | invoke task arguments => exact .advance (some _) nofun (fun _ => .invoke) lighter
  | guarded test body =>
    rw [Program.perform]
    split
    · refine .advance (some _) nofun (fun _ => .pass) ?_
      simp [weightOfAll_append, weightOfAll, weightOf]
    · exact .advance (some _) nofun (fun _ => .refuse) lighter
  | markRun name => exact .advance (some _) nofun (fun _ => .mark) lighter

/-- Every step is one of the moves. -/
theorem move_of_step {program : Program} {valuation : Valuation}
    {configuration next : Configuration}
    (stepped : program.step valuation configuration = some next) :
    Move program valuation configuration next := by
  obtain ⟨frames, history⟩ := configuration
  cases frames with
  | nil => cases stepped
  | cons frame frames =>
    obtain ⟨target, statements⟩ := frame
    cases statements with
    | nil =>
      cases stepped
      exact .leave
    | cons statement rest =>
      cases stepped
      exact move_perform program valuation target rest frames history statement

/-- What holds at the start of a run and is kept by every move holds all along
the run. -/
theorem run_induction {program : Program} {valuation : Valuation}
    {Holds : Configuration → Prop}
    (keeps : ∀ {configuration next}, Move program valuation configuration next →
      Holds configuration → Holds next)
    (count : Nat) {configuration : Configuration} (initially : Holds configuration) :
    Holds (program.run valuation count configuration) := by
  induction count generalizing configuration with
  | zero => exact initially
  | succ count ih =>
    rw [Program.run]
    split
    · exact initially
    · rename_i next stepped
      exact ih (keeps (move_of_step stepped) initially)

end RunOnce.Execution
