import RunOnce.Assoc
import RunOnce.Model.Project
import RunOnce.Ordering.TargetList
import RunOnce.Settings.Basic

/-!
# The default target

A program ends with a call of the default target: the first one in the
project's own list if it has one, else the first one in the value of a property.
-/

namespace RunOnce.Compile

open RunOnce.Expansion
open RunOnce.Journal
open RunOnce.Model
open RunOnce.Ordering
open RunOnce.Text

/-- The values that global properties give, by lowercase name; of several
spellings of a name the last counts. -/
def overrideTable (globals : List (String × String)) : Assoc String :=
  Assoc.ofList (globals.map fun entry => (lower entry.1, entry.2))

/-- The value that global properties give to a name, in any case. -/
def overrideOf? (globals : List (String × String)) (name : String) : Option String :=
  (overrideTable globals).get? (lower name)

/-- Where the default targets are listed, and the list. -/
def defaultTargetList (project : Project) (expander : Expander) (settings : Settings)
    (globals : List (String × String)) : Traced Failure (String × String) :=
  match project.defaultTargets.filter hasText with
  | some raw =>
    match expander raw with
    | .ok list => pure ("default_targets", list)
    | .error reason => (Failure.noDefaultTarget "default_targets" (some reason.text)).throw
  | none =>
    let source := settings.defaultTargetProperty
    match overrideOf? globals source with
    | some list => pure (source, list)
    | none =>
      match project.getProperty? source with
      | some property => pure (source, property.expandedValue)
      | none => (Failure.noDefaultTarget source none).throw

/-- The target that the program calls in the end. -/
def resolveDefaultTarget (project : Project) (expander : Expander) (settings : Settings)
    (globals : List (String × String)) : Traced Failure String := do
  let (source, list) ← defaultTargetList project expander settings globals
  match splitTargetList list with
  | [] => (Failure.noDefaultTarget source none).throw
  | [name] => pure name
  | name :: others =>
    Traced.report (.defaultTargetsTruncated name (name :: others))
    pure name

end RunOnce.Compile
