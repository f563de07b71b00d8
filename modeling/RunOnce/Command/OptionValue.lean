import RunOnce.Assoc
import RunOnce.Command.Usage
import RunOnce.Number.Reading

/-!
# Values of options

Reads the texts given to options: whole numbers in a range, one of several
words, assignments of properties.
-/

namespace RunOnce.Command

open RunOnce.Text

/-- A whole number in a range. -/
def readRange (low high : Nat) (given : String) : Except ValueProblem Nat :=
  match Number.readInteger 10 (given.toList.map Char.toNat) with
  | .error _ => .error (.notInteger given)
  | .ok value =>
    if (low : Int) ≤ value ∧ value ≤ (high : Int) then .ok value.toNat
    else .error (.outOfRange value low high)

/-- One of several words. -/
def readChoice (choices : List String) (given : String) : Except ValueProblem String :=
  if choices.contains given then .ok given else .error (.notChoice given choices)

/-- One of several words of small ASCII letters, written in any case. -/
def readChoiceAnyCase (choices : List String) (given : String) : Except ValueProblem String :=
  let small := String.ofList (given.toList.map Char.toLower)
  if choices.contains small then .ok small else .error (.notChoice given choices)

/-- The name and the value of an assignment. The first equals sign divides them,
and blanks around the name are dropped. -/
def readAssignment (given : String) : Except ValueProblem (String × String) :=
  let name := trim (given.toList.takeWhile (· ≠ '='))
  match name, given.toList.dropWhile (· ≠ '=') with
  | _ :: _, _ :: value => .ok (String.ofList name, String.ofList value)
  | _, _ => .error (.notAssignment given)

/-- Read assignments up to the first that is none. -/
def readAssignments : List String → Except ValueProblem (List (String × String))
  | [] => .ok []
  | given :: rest => do
    let assignment ← readAssignment given
    let assignments ← readAssignments rest
    .ok (assignment :: assignments)

/-- The properties that assignments leave behind: a name that is assigned again
keeps its place and takes the new value. -/
def readProperties (given : List String) : Except ValueProblem (List (String × String)) :=
  (readAssignments given).map Assoc.ofList

end RunOnce.Command
