import RunOnce.Expansion.Expander
import RunOnce.Failure
import RunOnce.Text.Blank
import RunOnce.Text.Split

/-!
# Lists of target names

Target names are listed in one text, separated by semicolons. Blanks around a
name and empty places are passed over.
-/

namespace RunOnce.Ordering

open RunOnce.Expansion
open RunOnce.Journal
open RunOnce.Text

/-- The names in a list of targets. -/
def splitTargetList (list : String) : List String :=
  ((splitOn ';' list.toList).map trim).filterMap fun name =>
    if name.isEmpty then none else some (String.ofList name)

/-- The names in the raw list that a target declares in a field. A list that
decides calls must expand. -/
def expandTargetList (expander : Expander) (target field raw : String) :
    Traced Failure (List String) :=
  if hasText raw then
    match expander raw with
    | .ok list => pure (splitTargetList list)
    | .error reason => (Failure.controlFlow target field raw reason.text).throw
  else pure []

end RunOnce.Ordering
