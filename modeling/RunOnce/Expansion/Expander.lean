import RunOnce.Failure
import RunOnce.Journal.Traced

/-!
# Expanders

The compiler leaves the meaning of raw expressions to an expander, which gives
an expression's value or says why there is none. Where a value only feeds the
text of the program, a failed expansion falls back to the raw expression.
-/

namespace RunOnce.Expansion

open RunOnce.Journal

/-- Why an expression cannot be expanded. -/
inductive Reason
  | unterminated (offset : Nat)
  | empty (offset : Nat)
  | undefined (name : String)
  | other (text : String)
deriving DecidableEq, Repr

/-- The text of a reason. -/
def Reason.text : Reason → String
  | unterminated offset => "unterminated property reference at offset " ++ toString offset
  | empty offset => "empty property reference at offset " ++ toString offset
  | undefined name => "undefined property '" ++ name ++ "'"
  | other text => text

/-- Gives the value of a raw expression. -/
abbrev Expander := String → Except Reason String

/-- The value of an expression, or the expression itself when it has none. -/
def valueOrRaw (expander : Expander) (raw : String) : String :=
  match expander raw with
  | .ok value => value
  | .error _ => raw

/-- The value of an expression, or a failure that names the expression and the reason. -/
def valueOrFailure (expander : Expander) (raw : String) : Except Failure String :=
  match expander raw with
  | .ok value => .ok value
  | .error reason => .error (.expansion raw reason.text)

/-- Take the value of an expression, reporting when the raw text is kept. -/
def expandOrRaw {ε : Type} (expander : Expander) (raw : String) : Traced ε String :=
  match expander raw with
  | .ok value => ⟨[], .ok value⟩
  | .error reason => ⟨[.expansionFallback raw reason.text], .ok raw⟩

@[simp]
theorem outcome_expandOrRaw {ε : Type} (expander : Expander) (raw : String) :
    (expandOrRaw expander raw : Traced ε String).outcome = .ok (valueOrRaw expander raw) := by
  unfold expandOrRaw valueOrRaw
  cases expander raw <;> rfl

end RunOnce.Expansion
