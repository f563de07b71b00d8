import RunOnce.Files.Store

/-!
# File trees

A file store in memory. Each place in the tree is the list of names that leads
to it from the root, and the tree knows what stands at each place. A path is
followed name by name, and a step to the parent leads to the directory above
the one reached so far.
-/

namespace RunOnce.Files

/-- A place in a tree, as the names that lead to it from the root. -/
abbrev Place := List String

/-- What stands at a place. -/
inductive Entry
  | directory
  | file (content : ByteArray)

/-- The kind of an entry. -/
def Entry.kind : Entry → Kind
  | directory => .directory
  | file _ => .file

/-- A tree of files, with a working directory. The root is always there. -/
structure Tree where
  workingDirectory : Place := []
  entries : List (Place × Entry) := []

namespace Tree

/-- What stands at a place. -/
def find? (tree : Tree) (place : Place) : Option Entry :=
  if place.isEmpty then some .directory
  else (tree.entries.find? fun entry => entry.1 == place).map Prod.snd

/-- Put an entry at a place. -/
def put (tree : Tree) (place : Place) (entry : Entry) : Tree :=
  { tree with entries := (place, entry) :: tree.entries.filter fun other => other.1 != place }

/-- The most bytes that a name may have. -/
def longestName : Nat := 255

/-- The most bytes that the text of a path may have. -/
def longestPath : Nat := 4095

/-- Follow names from a place to where the last of them leads. All places on the
way must be directories; what stands at the last one does not matter. -/
def follow (tree : Tree) : Place → List String → Except Cause Place
  | place, [] => .ok place
  | place, name :: names =>
    match tree.find? place with
    | none => .error .missing
    | some (.file _) => .error .notDirectory
    | some .directory =>
      if longestName < name.utf8ByteSize then .error .nameTooLong
      else follow tree (if name = ".." then place.dropLast else place ++ [name]) names

/-- The place that a path leads to. -/
def locate (tree : Tree) (path : Path) : Except Cause Place :=
  if Path.hasNul path.text then .error .hasNul
  else if longestPath < path.text.utf8ByteSize then .error .nameTooLong
  else tree.follow (if path.isAbsolute then [] else tree.workingDirectory) path.names

/-- What stands at a path. Nothing does where no directory leads. -/
def lookUp (tree : Tree) (path : Path) : Except Cause (Option Kind) :=
  match tree.locate path with
  | .ok place => .ok ((tree.find? place).map Entry.kind)
  | .error .missing | .error .notDirectory => .ok none
  | .error cause => .error cause

/-- The content of the file at a path. -/
def read (tree : Tree) (path : Path) : Except Cause ByteArray := do
  match tree.find? (← tree.locate path) with
  | none => .error .missing
  | some .directory => .error .isDirectory
  | some (.file content) => .ok content

/-- The names in the directory at a path. -/
def list (tree : Tree) (path : Path) : Except Cause (List String) := do
  let place ← tree.locate path
  match tree.find? place with
  | none => .error .missing
  | some (.file _) => .error .notDirectory
  | some .directory =>
    .ok (tree.entries.filterMap fun entry =>
      if entry.1.dropLast = place then entry.1.getLast? else none)

/-- Make a directory at a path at which nothing stands. -/
def makeDirectory (tree : Tree) (path : Path) : Except Cause Tree := do
  let place ← tree.locate path
  match tree.find? place with
  | some _ => .error .alreadyThere
  | none => .ok (tree.put place .directory)

/-- Give the file at a path a new content. -/
def write (tree : Tree) (path : Path) (content : ByteArray) : Except Cause Tree := do
  let place ← tree.locate path
  match tree.find? place with
  | some .directory => .error .isDirectory
  | _ => .ok (tree.put place (.file content))

/-- Take over a changed tree, or report why there is none. -/
def replace (path : Path) : Except Cause Tree → StateM Tree (Except Fault Unit)
  | .ok tree => do
    set tree
    pure (.ok ())
  | .error cause => pure (.error ⟨cause, path⟩)

instance : Store (StateM Tree) where
  lookUp path := do pure (((← get).lookUp path).mapError fun cause => ⟨cause, path⟩)
  read path := do pure (((← get).read path).mapError fun cause => ⟨cause, path⟩)
  list path := do pure (((← get).list path).mapError fun cause => ⟨cause, path⟩)
  makeDirectory path := do replace path ((← get).makeDirectory path)
  write path content := do replace path ((← get).write path content)

/-- What is put at a place is found there. -/
theorem find?_put_self (tree : Tree) {place : Place} (entry : Entry) (named : place ≠ []) :
    (tree.put place entry).find? place = some entry := by
  simp [find?, put, named]

/-- Putting an entry leaves all other places alone. -/
theorem find?_put_of_ne (tree : Tree) {place other : Place} (entry : Entry)
    (different : other ≠ place) :
    (tree.put place entry).find? other = tree.find? other := by
  have kept : (fun pair : Place × Entry => !decide (pair.1 = place) && decide (pair.1 = other)) =
      fun pair => pair.1 == other := by
    funext pair
    by_cases same : pair.1 = other
    · simp [same, different]
    · simp [same]
  have passed : (place == other) = false := by
    simpa using different.symm
  simp [find?, put, List.find?_filter, kept, passed]

end Tree

end RunOnce.Files
