import RunOnce.Files.Tree

/-!
# Actions on trees

Some actions only look at a tree, and the tree stays as it is. What follows such an
action runs on the same tree, so all that matters is what it answers. A file that
is written has its new content afterwards: the directories on the way to it are
still those that were there before.
-/

namespace RunOnce.Files

variable {α β : Type}

/-- What an action on a tree answers, and the tree that it leaves. -/
def perform (action : StateM Tree α) (tree : Tree) : α × Tree :=
  action.run tree

/-- What an action on a tree answers. -/
def answer (action : StateM Tree α) (tree : Tree) : α :=
  (perform action tree).1

/-- Whether an action leaves every tree as it is. -/
def Keeps (action : StateM Tree α) : Prop :=
  ∀ tree, (perform action tree).2 = tree

theorem perform_bind (action : StateM Tree α) (next : α → StateM Tree β) (tree : Tree) :
    perform (action >>= next) tree =
      perform (next (perform action tree).1) (perform action tree).2 :=
  rfl

/-- What follows an action that keeps the tree runs on the same tree. -/
theorem perform_bind_of_keeps {action : StateM Tree α} (keeps : Keeps action)
    (next : α → StateM Tree β) (tree : Tree) :
    perform (action >>= next) tree = perform (next (answer action tree)) tree := by
  rw [perform_bind, keeps tree]
  rfl

theorem answer_bind_of_keeps {action : StateM Tree α} (keeps : Keeps action)
    (next : α → StateM Tree β) (tree : Tree) :
    answer (action >>= next) tree = answer (next (answer action tree)) tree :=
  congrArg Prod.fst (perform_bind_of_keeps keeps next tree)

theorem keeps_pure (value : α) : Keeps (pure value : StateM Tree α) :=
  fun _ => rfl

theorem Keeps.bind {action : StateM Tree α} {next : α → StateM Tree β} (keeps : Keeps action)
    (nextKeeps : ∀ value, Keeps (next value)) : Keeps (action >>= next) := by
  intro tree
  rw [perform_bind_of_keeps keeps]
  exact nextKeeps _ tree

theorem keeps_lookUp (path : Path) : Keeps (Store.lookUp path : StateM Tree _) :=
  fun _ => rfl

theorem keeps_read (path : Path) : Keeps (Store.read path : StateM Tree _) :=
  fun _ => rfl

theorem keeps_list (path : Path) : Keeps (Store.list path : StateM Tree _) :=
  fun _ => rfl

/-- Asking whether a text names a directory changes nothing. -/
theorem keeps_namesDirectory (text : String) : Keeps (Store.namesDirectory text) := by
  unfold Store.namesDirectory
  split
  · exact keeps_pure _
  · apply (keeps_lookUp _).bind
    intro found
    split <;> exact keeps_pure _

namespace Tree

variable {tree after : Tree} {place reached : Place} {entry : Entry} {path : Path}
  {content : ByteArray}

/-- Names lead where they led before when an entry is put in the place of something
that is no directory. -/
theorem follow_put (noDirectory : tree.find? place ≠ some .directory) {start : Place}
    {names : List String} (leads : tree.follow start names = .ok reached) :
    (tree.put place entry).follow start names = .ok reached := by
  induction names generalizing start with
  | nil => exact leads
  | cons name names ih =>
    simp only [follow] at leads ⊢
    -- Only a directory leads on, so the step starts at another place.
    split at leads
    · cases leads
    · cases leads
    · rename_i directory
      have other : start ≠ place := by
        rintro rfl
        exact noDirectory directory
      rw [find?_put_of_ne tree entry other, directory]
      dsimp only
      split at leads
      · cases leads
      · rename_i short
        rw [if_neg short]
        exact ih leads

theorem locate_put (noDirectory : tree.find? place ≠ some .directory)
    (leads : tree.locate path = .ok reached) :
    (tree.put place entry).locate path = .ok reached := by
  unfold locate at leads ⊢
  split at leads
  · cases leads
  · rename_i noNul
    rw [if_neg noNul]
    split at leads
    · cases leads
    · rename_i short
      rw [if_neg short]
      exact follow_put noDirectory leads

/-- What is written to a file is what is read from it. -/
theorem read_of_write (written : tree.write path content = .ok after) :
    after.read path = .ok content := by
  unfold write at written
  cases located : tree.locate path with
  | error cause =>
    rw [located] at written
    cases written
  | ok place =>
    rw [located] at written
    dsimp only [bind, Except.bind] at written
    split at written
    · cases written
    · rename_i noDirectory
      cases written
      have noDirectory : tree.find? place ≠ some .directory := noDirectory
      -- The root is a directory.
      have named : place ≠ [] := by
        rintro rfl
        exact noDirectory rfl
      rw [read, locate_put noDirectory located]
      simp only [bind, Except.bind, find?_put_self tree _ named]

end Tree

/-- What a tree has at a path once a content is written there, whatever directories
are made on the way. -/
theorem read_of_writeDeep {tree after : Tree} {path : Path} {content : ByteArray}
    (written : perform (Store.writeDeep path content) tree = (.ok (), after)) :
    after.read path = .ok content := by
  unfold Store.writeDeep at written
  rw [perform_bind] at written
  generalize perform (Store.ensureDirectories path.slashes path.parent.names.reverse) tree = made
    at written
  obtain ⟨fault | ⟨⟩, within⟩ := made
  · cases written
  · change perform (Tree.replace path (within.write path content)) within = _ at written
    cases last : within.write path content with
    | error cause =>
      rw [last] at written
      cases written
    | ok final =>
      rw [last] at written
      cases written
      exact Tree.read_of_write last

end RunOnce.Files
