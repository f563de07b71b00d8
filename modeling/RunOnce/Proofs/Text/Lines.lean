import RunOnce.Text.Indented
import RunOnce.Text.Split

/-!
# The lines of a rendered text

A text falls apart at its line feeds. When the spaces at the beginning of each of its
lines are removed, whether they come from a level or from a value that spans lines,
what is left of rendered lines does not depend on the size of the indentation.
-/

namespace RunOnce.Text

/-! ## Text without indentation -/

/-- At each separator a text falls apart. -/
theorem splitOn_append_cons {α : Type} [DecidableEq α] (separator : α) (front back : List α) :
    splitOn separator (front ++ separator :: back) =
      splitOn separator front ++ splitOn separator back := by
  induction front with
  | nil => simp [splitOn]
  | cons c rest ih =>
    simp only [List.cons_append, splitOn, ih]
    split
    · rfl
    · cases parts : splitOn separator rest with
      | nil => exact absurd parts (splitOn_ne_nil separator rest)
      | cons part parts => rfl

/-- The lines of a text, without the spaces at the beginning of each. -/
def unindented (cs : List Char) : List (List Char) :=
  (splitOn '\n' cs).map (List.dropWhile (· == ' '))

theorem unindented_append_cons (front back : List Char) :
    unindented (front ++ '\n' :: back) = unindented front ++ unindented back := by
  simp [unindented, splitOn_append_cons]

/-- Spaces at the beginning of a text do not count. -/
theorem unindented_spaces_append (count : Nat) (cs : List Char) :
    unindented (List.replicate count ' ' ++ cs) = unindented cs := by
  induction count with
  | zero => rfl
  | succ count ih =>
    rw [← ih]
    simp only [unindented, List.replicate_succ, List.cons_append, splitOn,
      if_neg (by decide : ' ' ≠ '\n')]
    cases parts : splitOn '\n' (List.replicate count ' ' ++ cs) with
    | nil => exact absurd parts (splitOn_ne_nil '\n' _)
    | cons part parts => simp

/-! ## Lines at a level -/

theorem renderLines_append (size : Nat) (first second : List Line) :
    renderLines size (first ++ second) = renderLines size first ++ renderLines size second := by
  simp only [renderLines, List.map_append, String.join_append]

/-- A rendered line is its text between an indentation and a line feed. -/
theorem toList_render (size : Nat) (line : Line) :
    ∃ count, (line.render size).toList =
      List.replicate count ' ' ++ (line.text.toList ++ ['\n']) := by
  unfold Line.render
  split
  · rename_i blank
    exact ⟨0, by simp [blank]⟩
  · exact ⟨line.level * size, by simp [indentation]⟩

/-- Without indentation, rendered lines are the lines of their texts, and nothing after
the last line feed. -/
theorem unindented_renderLines (size : Nat) (lines : List Line) :
    unindented (renderLines size lines).toList =
      lines.flatMap (fun line => unindented line.text.toList) ++ [[]] := by
  unfold renderLines
  induction lines with
  | nil => rfl
  | cons line rest ih =>
    obtain ⟨count, rendered⟩ := toList_render size line
    rw [List.map_cons, String.join_cons, String.toList_append, rendered, List.append_assoc,
      List.append_assoc, unindented_spaces_append, List.cons_append, List.nil_append,
      unindented_append_cons, ih, List.flatMap_cons, List.append_assoc]

end RunOnce.Text
