import RunOnce.Document.Issue

/-!
# Checked values

Reading a document either gives a value or all the issues found. Combining two
readings collects the issues of both, in order.
-/

namespace RunOnce.Document

universe u

/-- A value read from a document, or the issues that stand in its way. -/
inductive Checked (α : Type u)
  | valid (value : α)
  | invalid (issues : List Issue)
deriving Repr

namespace Checked

variable {α β : Type u}

/-- One issue at the value itself. -/
def issue (cause : Cause) : Checked α :=
  invalid [⟨[], cause⟩]

/-- Change a value that was read. -/
protected def map (f : α → β) : Checked α → Checked β
  | valid value => valid (f value)
  | invalid issues => invalid issues

/-- Apply a function that was read to a value that was read. -/
protected def seq (f : Checked (α → β)) (x : Checked α) : Checked β :=
  match f, x with
  | valid f, valid value => valid (f value)
  | valid _, invalid issues => invalid issues
  | invalid issues, valid _ => invalid issues
  | invalid issues, invalid others => invalid (issues ++ others)

instance : Functor Checked where
  map := Checked.map

instance : Applicative Checked where
  pure := valid
  seq f x := Checked.seq f (x ())

/-- Go on checking a value that was read. -/
def andThen (x : Checked α) (next : α → Checked β) : Checked β :=
  match x with
  | valid value => next value
  | invalid issues => invalid issues

/-- The issues found. -/
def issues : Checked α → List Issue
  | valid _ => []
  | invalid issues => issues

/-- The value, if there are no issues. -/
def value? : Checked α → Option α
  | valid value => some value
  | invalid _ => none

/-- Place the issues one step further inside. -/
def under (step : Step) : Checked α → Checked α
  | valid value => valid value
  | invalid issues => invalid (issues.map fun issue => ⟨step :: issue.place, issue.cause⟩)

/-- Read every item of a list, each at its position. -/
def each (read : Value → Checked α) (position : Nat) : List Value → Checked (List α)
  | [] => valid []
  | item :: rest =>
    ((read item).under (.index position)).map List.cons |>.seq (each read (position + 1) rest)

end Checked

end RunOnce.Document
