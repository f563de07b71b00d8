/-!
# Targets

A target is a named unit of build work. Its body is a sequence of property
groups and tasks; its ordering lists say which targets run before and after it.
All values are raw expressions.
-/

namespace RunOnce.Model

/-- An assignment inside a property group. -/
structure Assignment where
  name : String
  value : String := ""
  condition : Option String := none
deriving DecidableEq, Repr

/-- Assignments under a common condition. -/
structure PropertyGroup where
  condition : Option String := none
  assignments : List Assignment := []
deriving DecidableEq, Repr

/-- A task call. Parameters keep the order of their declaration. -/
structure Task where
  name : String
  condition : Option String := none
  parameters : List (String × String) := []
deriving DecidableEq, Repr

/-- An element of a target's body. -/
inductive Child
  | group (assignments : PropertyGroup)
  | task (call : Task)
deriving DecidableEq, Repr

/-- A unit of build work. -/
structure Target where
  name : String
  condition : Option String := none
  dependsOnTargets : String := ""
  beforeTargets : String := ""
  afterTargets : String := ""
  children : List Child := []
deriving DecidableEq, Repr

/-- The task of a child that is one. -/
def Child.task? : Child → Option Task
  | group _ => none
  | task call => some call

/-- The property group of a child that is one. -/
def Child.group? : Child → Option PropertyGroup
  | group assignments => some assignments
  | task _ => none

/-- The tasks of a target, in order. -/
def Target.tasks (target : Target) : List Task :=
  target.children.filterMap Child.task?

/-- The property groups of a target, in order. -/
def Target.propertyGroups (target : Target) : List PropertyGroup :=
  target.children.filterMap Child.group?

/-- The declarations of a target that name other targets. -/
inductive OrderingField
  | dependsOn
  | before
  | after
deriving DecidableEq, Repr

namespace OrderingField

/-- The name of the declaration. -/
def label : OrderingField → String
  | dependsOn => "depends_on_targets"
  | before => "before_targets"
  | after => "after_targets"

/-- The raw list that a target declares. -/
def raw (target : Target) : OrderingField → String
  | dependsOn => target.dependsOnTargets
  | before => target.beforeTargets
  | after => target.afterTargets

/-- All ordering declarations, in the order in which they are reported. -/
def all : List OrderingField :=
  [dependsOn, before, after]

end OrderingField

end RunOnce.Model
