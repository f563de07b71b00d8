import RunOnce.Text.Split

/-!
# Paths

A path is a list of names, read from the working directory or, after leading
slashes, from the root. Empty names and names that stand for the directory
itself are left out; a step to the parent is kept, since what it leads to
depends on the directory that it is taken in.
-/

namespace RunOnce.Files

open RunOnce.Text

/-- A path, with the slashes that it starts with. -/
structure Path where
  slashes : Nat := 0
  names : List String
deriving DecidableEq, Repr

namespace Path

/-- The leading slashes that are kept: exactly two differ from one, and any
other number is the same as one. -/
def keptSlashes (leading : Nat) : Nat :=
  if leading = 2 then 2 else min leading 1

/-- Whether a name adds nothing to a path. -/
def isIdle (name : List Char) : Bool :=
  name.isEmpty || name == ['.']

/-- Read a path. -/
def ofText (text : String) : Path where
  slashes := keptSlashes (text.toList.takeWhile (· = '/')).length
  names := ((splitOn '/' text.toList).filter fun name => !isIdle name).map String.ofList

/-- The text of a path. -/
def text (path : Path) : String :=
  let root := String.ofList (List.replicate path.slashes '/')
  if path.names.isEmpty && path.slashes == 0 then "." else root ++ "/".intercalate path.names

/-- The directory that a path stands in. -/
def parent (path : Path) : Path :=
  { path with names := path.names.dropLast }

/-- Whether a path is read from the root. -/
def isAbsolute (path : Path) : Bool :=
  path.slashes != 0

/-- Whether a text has the character that no name may have. -/
def hasNul (text : String) : Bool :=
  text.toList.contains '\x00'

end Path

end RunOnce.Files
