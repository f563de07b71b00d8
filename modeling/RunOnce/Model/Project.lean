import RunOnce.Model.Property
import RunOnce.Model.Target
import RunOnce.Text.Lowercase

/-!
# Projects

An evaluated build project. Property names are compared without regard to case,
target names exactly.
-/

namespace RunOnce.Model

open RunOnce.Text

/-- An evaluated build project, everything in order of declaration. -/
structure Project where
  name : Option String := none
  properties : List Property := []
  itemSchemas : List ItemSchema := []
  targets : List Target := []
  /-- The raw list of default targets, when the project names them itself. -/
  defaultTargets : Option String := none
deriving DecidableEq, Repr

namespace Project

/-- The property of a name, in any case. -/
def getProperty? (project : Project) (name : String) : Option Property :=
  project.properties.find? fun property => sameName property.name name

/-- The target of a name. -/
def getTarget? (project : Project) (name : String) : Option Target :=
  project.targets.find? fun target => target.name == name

/-- The properties that get an initializer. -/
def emittedProperties (project : Project) : List Property :=
  project.properties.filter Property.isEmitted

end Project

/-- The first name in a list whose key stood earlier in it. -/
def firstRepeated? (key : String → String) (names : List String) : Option String :=
  let rec go (seen : List String) : List String → Option String
    | [] => none
    | name :: rest => if key name ∈ seen then some name else go (key name :: seen) rest
  go [] names

end RunOnce.Model
