import RunOnce.Generated.Basic

/-!
# Statements in their blocks

A block tests a condition and holds other statements. So each statement that is no block
stands under some tests, those of the blocks around it. When the lines of a procedure are
read back, such a statement is found in the blocks of its tests, indented by their number,
and each block is closed at the level at which it was opened.
-/

namespace RunOnce.Generated

open RunOnce.Text

/-! ## Leaves -/

/-- A statement that is no block, with the tests of the blocks around it, the outermost
first. -/
structure Leaf where
  tests : List String
  statement : Statement

namespace Leaf

/-- The same leaf with one more block around all the others. -/
def within (test : String) (leaf : Leaf) : Leaf :=
  { leaf with tests := test :: leaf.tests }

/-- The lines of a leaf whose outermost block stands at a level. -/
def lines (level : Nat) (leaf : Leaf) : List Line :=
  leaf.statement.lines (level + leaf.tests.length)

theorem lines_within (level : Nat) (test : String) (leaf : Leaf) :
    (leaf.within test).lines level = leaf.lines (level + 1) := by
  simp only [lines, within, List.length_cons, Nat.add_assoc, Nat.add_comm 1]

end Leaf

mutual

/-- The leaves of a statement, in order. -/
def leavesOf : Statement → List Leaf
  | .guarded test body => (leavesOfAll body).map (Leaf.within test)
  | .blank => [⟨[], .blank⟩]
  | .remark text => [⟨[], .remark text⟩]
  | .comment text => [⟨[], .comment text⟩]
  | .skipWhen test target => [⟨[], .skipWhen test target⟩]
  | .callOnce target => [⟨[], .callOnce target⟩]
  | .assign name value => [⟨[], .assign name value⟩]
  | .invoke task arguments => [⟨[], .invoke task arguments⟩]
  | .markRun target => [⟨[], .markRun target⟩]

/-- The leaves of a sequence of statements, in order. -/
def leavesOfAll : List Statement → List Leaf
  | [] => []
  | statement :: rest => leavesOf statement ++ leavesOfAll rest

end

theorem leavesOfAll_append (first second : List Statement) :
    leavesOfAll (first ++ second) = leavesOfAll first ++ leavesOfAll second := by
  induction first with
  | nil => rfl
  | cons statement rest ih => simp [leavesOfAll, ih]

theorem leavesOfAll_map_callOnce (names : List String) :
    leavesOfAll (names.map .callOnce) = names.map fun name => ⟨[], .callOnce name⟩ := by
  induction names with
  | nil => rfl
  | cons name rest ih => simp [leavesOfAll, leavesOf, ih]

/-! ## Lines of leaves -/

theorem linesOfAll_append (level : Nat) (first second : List Statement) :
    Statement.linesOfAll level (first ++ second) =
      Statement.linesOfAll level first ++ Statement.linesOfAll level second := by
  induction first with
  | nil => rfl
  | cons statement rest ih => simp [Statement.linesOfAll, ih]

mutual

/-- The lines of a statement's leaves are among its lines, in the same order. -/
theorem lines_leavesOf_sublist (level : Nat) (statement : Statement) :
    ((leavesOf statement).flatMap (Leaf.lines level)).Sublist (statement.lines level) := by
  cases statement with
  | guarded test body =>
    have inside := lines_leavesOfAll_sublist (level + 1) body
    rw [leavesOf, List.flatMap_map]
    simp only [Leaf.lines_within]
    exact ((inside.trans (List.sublist_append_left _ _)).cons _).cons _
  | _ => simp [leavesOf, Leaf.lines]

theorem lines_leavesOfAll_sublist (level : Nat) (statements : List Statement) :
    ((leavesOfAll statements).flatMap (Leaf.lines level)).Sublist
      (Statement.linesOfAll level statements) := by
  cases statements with
  | nil => exact List.Sublist.refl _
  | cons statement rest =>
    rw [leavesOfAll, List.flatMap_append]
    exact (lines_leavesOf_sublist level statement).append (lines_leavesOfAll_sublist level rest)

end

/-! ## Reading blocks back -/

/-- What has been read of a text line by line. -/
structure BlockReading where
  /-- The text of the latest line. -/
  latest : String
  /-- The blocks that are open, the innermost first: at which level each was opened, and
  after which line. -/
  opened : List (Nat × String)
  /-- The lines that neither open nor close a block, each with the lines before the blocks
  around it, the outermost first. -/
  lines : List (List String × Line)

namespace BlockReading

/-- The lines before the open blocks, the outermost first. -/
def headers (reading : BlockReading) : List String :=
  (reading.opened.map Prod.snd).reverse

/-- Read one more line. A block has to be closed at the level at which it was opened. -/
def next (reading : BlockReading) (line : Line) : Option BlockReading :=
  if line.text = "\x7b" then
    some ⟨line.text, (line.level, reading.latest) :: reading.opened, reading.lines⟩
  else if line.text = "\x7d" then
    match reading.opened with
    | [] => none
    | (level, _) :: outer =>
      if line.level = level then some ⟨line.text, outer, reading.lines⟩ else none
  else some ⟨line.text, reading.opened, reading.lines ++ [(reading.headers, line)]⟩

/-- Read so many more lines. -/
def all (reading : BlockReading) (lines : List Line) : Option BlockReading :=
  lines.foldlM next reading

@[simp]
theorem next_opening (reading : BlockReading) (level : Nat) :
    reading.next ⟨level, "\x7b"⟩ =
      some ⟨"\x7b", (level, reading.latest) :: reading.opened, reading.lines⟩ :=
  rfl

@[simp]
theorem next_closing (latest header : String) (level : Nat) (outer : List (Nat × String))
    (lines : List (List String × Line)) :
    (BlockReading.mk latest ((level, header) :: outer) lines).next ⟨level, "\x7d"⟩ =
      some ⟨"\x7d", outer, lines⟩ := by
  simp [next]

/-- A line with more or less than one character neither opens nor closes a block. -/
theorem next_of_length {line : Line} (length : line.text.toList.length ≠ 1)
    (reading : BlockReading) :
    reading.next line =
      some ⟨line.text, reading.opened, reading.lines ++ [(reading.headers, line)]⟩ := by
  have noOpening : line.text ≠ "\x7b" := by
    intro opening
    exact length (by rw [opening]; rfl)
  have noClosing : line.text ≠ "\x7d" := by
    intro closing
    exact length (by rw [closing]; rfl)
  rw [next, if_neg noOpening, if_neg noClosing]

end BlockReading

/-- Whether all blocks that are opened on some lines are closed there, and some of the lines
stand, in this order, in these blocks. -/
def Closed (lines : List Line) (placed : List (List String × Line)) : Prop :=
  ∀ reading : BlockReading, ∃ latest more,
    reading.all lines = some ⟨latest, reading.opened, reading.lines ++ more⟩ ∧
      (placed.map fun place => (reading.headers ++ place.1, place.2)).Sublist more

namespace Closed

theorem nil : Closed [] [] := by
  intro reading
  exact ⟨reading.latest, [], by simp [BlockReading.all], List.Sublist.refl _⟩

/-- Of the lines that stand somewhere, any may be left out. -/
theorem weaken {lines : List Line} {placed fewer : List (List String × Line)}
    (closed : Closed lines placed) (among : fewer.Sublist placed) : Closed lines fewer := by
  intro reading
  obtain ⟨latest, more, read, within⟩ := closed reading
  exact ⟨latest, more, read, (among.map _).trans within⟩

theorem append {first second : List Line} {placed others : List (List String × Line)}
    (front : Closed first placed) (back : Closed second others) :
    Closed (first ++ second) (placed ++ others) := by
  intro reading
  obtain ⟨middle, more, readFirst, inFirst⟩ := front reading
  obtain ⟨latest, rest, readSecond, inSecond⟩ :=
    back ⟨middle, reading.opened, reading.lines ++ more⟩
  refine ⟨latest, more ++ rest, ?_, ?_⟩
  · rw [BlockReading.all, List.foldlM_append]
    simp only [BlockReading.all] at readFirst readSecond
    simp [readFirst, readSecond]
  · rw [List.map_append]
    exact inFirst.append inSecond

theorem singleton {line : Line} (length : line.text.toList.length ≠ 1) :
    Closed [line] [([], line)] := by
  intro reading
  refine ⟨line.text, [(reading.headers, line)], ?_, ?_⟩
  · simp [BlockReading.all, BlockReading.next_of_length length]
  · simp

/-- What stands in a block stands in it after its header. -/
theorem block {header : Line} {lines : List Line} {placed : List (List String × Line)}
    (length : header.text.toList.length ≠ 1) (inside : Closed lines placed) (level : Nat) :
    Closed (header :: ⟨level, "\x7b"⟩ :: lines ++ [⟨level, "\x7d"⟩])
      (placed.map fun place => (header.text :: place.1, place.2)) := by
  intro reading
  obtain ⟨latest, more, read, within⟩ := inside
    ⟨"\x7b", (level, header.text) :: reading.opened,
      reading.lines ++ [(reading.headers, header)]⟩
  refine ⟨"\x7d", (reading.headers, header) :: more, ?_, ?_⟩
  · simp only [BlockReading.all] at read
    simp [BlockReading.all, BlockReading.next_of_length length, read]
  · rw [List.map_map]
    simp only [BlockReading.headers, List.map_cons, List.reverse_cons, List.append_assoc,
      List.singleton_append] at within
    exact within.cons _

end Closed

/-- The line before the block of a test. -/
def guardLine (test : String) : String :=
  "if (" ++ test ++ ")"

/-- The lines of a leaf, with the lines before the blocks around it. -/
def Leaf.placed (level : Nat) (leaf : Leaf) : List (List String × Line) :=
  (leaf.lines level).map fun line => (leaf.tests.map guardLine, line)

theorem Leaf.placed_within (level : Nat) (test : String) (leaf : Leaf) :
    (leaf.within test).placed level = (leaf.placed (level + 1)).map fun place =>
      (guardLine test :: place.1, place.2) := by
  rw [placed, placed, lines_within, List.map_map]
  rfl

mutual

/-- On the lines of a statement its leaves stand in the blocks of their tests. -/
theorem closed_lines (level : Nat) (statement : Statement) :
    Closed (statement.lines level) ((leavesOf statement).flatMap (Leaf.placed level)) := by
  cases statement with
  | guarded test body =>
    have header : (Line.mk level (guardLine test)).text.toList.length ≠ 1 := by
      simp [guardLine]
    have inside := Closed.block header (closed_linesOfAll (level + 1) body) level
    rw [leavesOf, List.flatMap_map]
    simp only [Leaf.placed_within]
    rw [List.map_flatMap] at inside
    exact inside
  | _ =>
    apply Closed.singleton
    simp only [guardedCall, runFlag, assignmentText, invocationText, Comment.encode,
      Comment.encodeChars, String.toList_append, String.toList_ofList, List.length_append,
      List.length_cons, List.length_nil, String.reduceToList]
    omega

theorem closed_linesOfAll (level : Nat) (statements : List Statement) :
    Closed (Statement.linesOfAll level statements)
      ((leavesOfAll statements).flatMap (Leaf.placed level)) := by
  cases statements with
  | nil => exact .nil
  | cons statement rest =>
    rw [leavesOfAll, List.flatMap_append]
    exact (closed_lines level statement).append (closed_linesOfAll level rest)

end

/-- On the lines of a procedure the leaves of its body stand in the blocks of their tests, and
all blocks are closed. -/
theorem closed_procedure (procedure : Procedure) :
    Closed procedure.lines (((leavesOfAll procedure.body).flatMap (Leaf.placed 1)).map
      fun place => (("void " ++ procedure.target ++ "()") :: place.1, place.2)) := by
  have header : (Line.mk 0 ("void " ++ procedure.target ++ "()")).text.toList.length ≠ 1 := by
    simp
  have last : Closed [⟨0, ""⟩] [([], ⟨0, ""⟩)] := .singleton (by simp)
  have whole := (Closed.block header (closed_linesOfAll 1 procedure.body) 0).append last
  rw [List.append_assoc] at whole
  exact whole.weaken (List.sublist_append_left _ _)

end RunOnce.Generated
