import RunOnce.Generated.Basic

/-!
# Running a program

A generated program is run statement by statement on a stack of procedures that
have been entered and not left. What happens is written into a history, the
latest first, and the flags are read off it: all flags start out false, and only
a mark sets one. A guarded call of a name that has no procedure does nothing.

The outside world decides which tests hold. The skip condition of a target has
one truth value for the whole run; a test inside a body may come out
differently each time, depending on all that has happened before.
-/

namespace RunOnce.Execution

open RunOnce.Generated

/-- What a statement of a body does to the outside world. -/
inductive Action
  | assign (name value : String)
  | invoke (task : String) (arguments : List (String × String))
deriving DecidableEq, Repr

/-- What can happen during a run. -/
inductive Occurrence
  /-- The procedure of a target is entered. -/
  | entered (target : String)
  /-- The procedure of a target reaches its guarded call of another one. -/
  | attempted (caller target : String)
  /-- A test in the body of a target comes out. -/
  | tested (target test : String) (outcome : Bool)
  /-- The body of a target acts. -/
  | acted (target : String) (action : Action)
  /-- The flag of a target is set. -/
  | marked (target : String)
deriving DecidableEq, Repr

/-- What has happened, the latest first. -/
abbrev History := List Occurrence

/-- Whether the flag of a target is set. -/
def Flagged (history : History) (target : String) : Prop :=
  .marked target ∈ history

instance (history : History) (target : String) : Decidable (Flagged history target) :=
  inferInstanceAs (Decidable (_ ∈ _))

/-- How tests come out. -/
structure Valuation where
  /-- Whether the skip condition of a target holds. -/
  skips : String → Bool
  /-- Whether a test in a body holds after a history. -/
  holds : History → String → Bool

/-- A procedure that has been entered, with the statements it has not reached. -/
structure Frame where
  target : String
  rest : List Statement

/-- A state of a run. The procedure that was entered last comes first. -/
structure Configuration where
  frames : List Frame
  history : History

end RunOnce.Execution

namespace RunOnce.Generated.Program

open RunOnce.Execution

/-- The procedure of a target. -/
def procedure? (program : Program) (target : String) : Option Procedure :=
  program.procedures.find? fun procedure => procedure.target == target

/-- Call a target, flag or no flag. -/
def call (program : Program) (target : String) (frames : List Frame) (history : History) :
    Configuration :=
  match program.procedure? target with
  | none => ⟨frames, history⟩
  | some procedure => ⟨⟨target, procedure.body⟩ :: frames, .entered target :: history⟩

/-- What a statement does in the procedure of a target, ahead of the rest of the
procedure. -/
def perform (program : Program) (valuation : Valuation) (target : String)
    (rest : List Statement) (frames : List Frame) (history : History) :
    Statement → Configuration
  | .blank | .remark _ | .comment _ => ⟨⟨target, rest⟩ :: frames, history⟩
  | .skipWhen _ name =>
    if valuation.skips name then ⟨⟨target, []⟩ :: frames, .marked name :: history⟩
    else ⟨⟨target, rest⟩ :: frames, history⟩
  | .callOnce name =>
    if Flagged history name then ⟨⟨target, rest⟩ :: frames, .attempted target name :: history⟩
    else program.call name (⟨target, rest⟩ :: frames) (.attempted target name :: history)
  | .assign name value =>
    ⟨⟨target, rest⟩ :: frames, .acted target (.assign name value) :: history⟩
  | .invoke task arguments =>
    ⟨⟨target, rest⟩ :: frames, .acted target (.invoke task arguments) :: history⟩
  | .guarded test body =>
    if valuation.holds history test then
      ⟨⟨target, body ++ rest⟩ :: frames, .tested target test true :: history⟩
    else ⟨⟨target, rest⟩ :: frames, .tested target test false :: history⟩
  | .markRun name => ⟨⟨target, rest⟩ :: frames, .marked name :: history⟩

/-- One step of a run. A run is over when all procedures have been left. -/
def step (program : Program) (valuation : Valuation) : Configuration → Option Configuration
  | ⟨[], _⟩ => none
  | ⟨⟨_, []⟩ :: frames, history⟩ => some ⟨frames, history⟩
  | ⟨⟨target, statement :: rest⟩ :: frames, history⟩ =>
    some (program.perform valuation target rest frames history statement)

/-- So many steps of a run, or all of them if it is over sooner. -/
def run (program : Program) (valuation : Valuation) : Nat → Configuration → Configuration
  | 0, configuration => configuration
  | count + 1, configuration =>
    match program.step valuation configuration with
    | none => configuration
    | some next => program.run valuation count next

/-- A run starts with the call of the default target. -/
def start (program : Program) : Configuration :=
  program.call program.entry [] []

/-- Whether the run of a program comes to an end with a history. -/
def Finishes (program : Program) (valuation : Valuation) (history : History) : Prop :=
  ∃ count, program.run valuation count program.start = ⟨[], history⟩

/-- Whether the run of a program comes to an end. -/
def Terminates (program : Program) (valuation : Valuation) : Prop :=
  ∃ history, program.Finishes valuation history

end RunOnce.Generated.Program
