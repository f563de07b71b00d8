import RunOnce.Assoc
import RunOnce.Text.Resemblance

/-!
# Registries of commands

A group of commands. Some are registered with the group; others are only named,
and found when they are first asked for. A registered command hides one that is
only named.
-/

namespace RunOnce.Command

/-- A group of commands. -/
structure Registry (α : Type) where
  registered : Assoc α := []
  named : Assoc α := []
deriving Repr

namespace Registry

variable {α : Type}

/-- The names of all commands, sorted, each once. -/
def names (registry : Registry α) : List String :=
  let all := Assoc.keys registry.registered ++ Assoc.keys registry.named
  all.eraseDups.mergeSort fun a b => !decide (b < a)

/-- The command of a name. -/
def find? (registry : Registry α) (name : String) : Option α :=
  match Assoc.get? registry.registered name with
  | some command => some command
  | none => Assoc.get? registry.named name

/-- The names of registered commands that resemble a name. -/
def similar (registry : Registry α) (name : String) : List String :=
  Text.closeMatches name (Assoc.keys registry.registered)

end Registry

end RunOnce.Command
