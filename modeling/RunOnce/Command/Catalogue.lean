import RunOnce.Command.Registry
import RunOnce.Text.Quoted
import RunOnce.Text.Split

/-!
# Catalogues of commands

A command that a group only names is given by a path: the name of a module and,
after the last point, the name of a member. A catalogue holds the modules with
their members. A module is found if all modules on the way to it are: those
whose names are its own name up to a point.
-/

namespace RunOnce.Command

open RunOnce.Text

/-- Modules by name, each with its members by name. -/
abbrev Catalogue (α : Type) := Assoc (Assoc α)

/-- Why a path leads to no member. -/
inductive PathFault
  /-- It has no point, so that it names no member. -/
  | noMember
  | noModule
  /-- The name of its module starts with a point. -/
  | relative (moduleName : String)
  /-- A module on the way is not there. The one before it may hold no modules. -/
  | unknownModule (moduleName : String) (barren? : Option String)
  | unknownMember (moduleName member : String)
deriving DecidableEq, Repr

/-- The text about a fault. -/
def PathFault.message : PathFault → String
  | noMember => "not enough values to unpack (expected 2, got 1)"
  | noModule => "Empty module name"
  | relative moduleName =>
    "the 'package' argument is required to perform a relative import for " ++
      Quoted.encode moduleName
  | unknownModule moduleName barren? =>
    "No module named " ++ Quoted.encode moduleName ++
      match barren? with
      | some barren => "; " ++ Quoted.encode barren ++ " is not a package"
      | none => ""
  | unknownMember moduleName member =>
    "module " ++ Quoted.encode moduleName ++ " has no attribute " ++ Quoted.encode member

/-- The parts of a path before and after its last point. -/
def splitPath? (path : String) : Option (String × String) :=
  match (splitOn '.' path.toList).reverse with
  | member :: next :: before =>
    some (".".intercalate ((next :: before).reverse.map String.ofList), String.ofList member)
  | _ => none

namespace Catalogue

variable {α : Type}

/-- Whether a module holds other modules. -/
def holdsModules (catalogue : Catalogue α) (moduleName : String) : Bool :=
  (Assoc.keys catalogue).any fun name => (moduleName ++ ".").isPrefixOf name

/-- The first fault on the way to a module, whose name is given in parts, from a
module on. -/
def wayFault? (catalogue : Catalogue α) (before? : Option String) :
    List String → Option PathFault
  | [] => none
  | part :: rest =>
    let name := before?.elim part fun before => before ++ "." ++ part
    if (Assoc.get? catalogue name).isSome then wayFault? catalogue (some name) rest
    else some (.unknownModule name (before?.filter fun before => !holdsModules catalogue before))

/-- The member that a path leads to. -/
def find (catalogue : Catalogue α) (path : String) : Except PathFault α :=
  match splitPath? path with
  | none => .error .noMember
  | some (moduleName, member) =>
    if moduleName = "" then .error .noModule
    else if moduleName.startsWith "." then .error (.relative moduleName)
    else
      match wayFault? catalogue none ((splitOn '.' moduleName.toList).map String.ofList) with
      | some fault => .error fault
      | none =>
        match (Assoc.get? catalogue moduleName).bind (Assoc.get? · member) with
        | some command => .ok command
        | none => .error (.unknownMember moduleName member)

/-- A group of commands that are given by paths, beside registered ones. -/
def registry (catalogue : Catalogue α) (registered : Assoc α) (paths : Assoc String) :
    Registry (Except PathFault α) where
  registered := registered.map fun (name, command) => (name, .ok command)
  named := paths.map fun (name, path) => (name, catalogue.find path)

end Catalogue

end RunOnce.Command
