import RunOnce.Journal.Traced

/-!
# Failures

Why a project cannot be compiled. A failure has a message for the user; what
else is known about it is reported as an event and never shown in the message.
-/

namespace RunOnce

open RunOnce.Journal

/-- A compilation failure. -/
inductive Failure
  | general (text : String) (details : Option String)
  | compilation (text : String) (details : Option String)
  /-- An expression could not be expanded. -/
  | expansion (expression reason : String)
  /-- No default target was found in the named place. -/
  | noDefaultTarget (source : String) (details : Option String)
  /-- A value that decides which calls are made could not be expanded. -/
  | controlFlow (target field expression reason : String)
  /-- The call graph has a cycle. -/
  | cyclic (cycle : List String)
deriving DecidableEq, Repr

namespace Failure

/-- The name under which a failure is reported. -/
def kind : Failure → String
  | general .. => "FlatbuildError"
  | compilation .. => "CompilationError"
  | expansion .. => "ExpansionError"
  | noDefaultTarget .. => "DefaultTargetError"
  | controlFlow .. => "ControlFlowExpansionError"
  | cyclic _ => "CyclicDependencyError"

/-- The message for the user. -/
def message : Failure → String
  | general text _ => text
  | compilation text _ => text
  | expansion expression reason => "Cannot expand '" ++ expression ++ "': " ++ reason
  | noDefaultTarget source _ => "No default target declared (looked up '" ++ source ++ "')"
  | controlFlow target field expression _ =>
    "Target '" ++ target ++ "': cannot expand " ++ field ++ " '" ++ expression ++ "'"
  | cyclic cycle => "Cyclic target dependency: " ++ " -> ".intercalate cycle

/-- What is known beyond the message. -/
def details? : Failure → Option String
  | general _ details => details
  | compilation _ details => details
  | expansion .. => none
  | noDefaultTarget _ details => details
  | controlFlow _ _ _ reason => some reason
  | cyclic _ => none

/-- The events that a failure reports: one if there are details to tell. -/
def events (failure : Failure) : List Event :=
  match failure.details? with
  | none => []
  | some details =>
    if details = "" then [] else [.failureDetails failure.kind failure.message details]

/-- Fail, reporting the details. -/
def throw {α : Type} (failure : Failure) : Traced Failure α :=
  ⟨failure.events, .error failure⟩

@[simp]
theorem outcome_throw {α : Type} (failure : Failure) :
    (failure.throw : Traced Failure α).outcome = .error failure :=
  rfl

end Failure

end RunOnce
