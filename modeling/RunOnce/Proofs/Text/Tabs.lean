import Mathlib.Data.List.Basic
import RunOnce.Text.Width

/-!
# Texts without tabs

Tabs are replaced by spaces and nothing else changes: a text without tabs stays as it
is, no tab is left, and of all other characters there are as many as before.
-/

namespace RunOnce.Text

/-! ## Parts of a text -/

/-- The parts of a text have all of it but the separators. -/
theorem flatten_splitOn {α : Type} [DecidableEq α] (separator : α) (cs : List α) :
    (splitOn separator cs).flatten = cs.filter (· ≠ separator) := by
  induction cs with
  | nil => rfl
  | cons c rest ih =>
    unfold splitOn
    by_cases same : c = separator
    · simp [same, ih]
    · rw [if_neg same]
      cases parts : splitOn separator rest with
      | nil => exact absurd parts (splitOn_ne_nil separator rest)
      | cons part others =>
        rw [parts, List.flatten_cons] at ih
        simp [same, ih]

theorem splitOn_of_not_mem {α : Type} [DecidableEq α] {separator : α} {cs : List α}
    (absent : separator ∉ cs) : splitOn separator cs = [cs] := by
  induction cs with
  | nil => rfl
  | cons c rest ih =>
    obtain ⟨other, absent⟩ := List.ne_and_not_mem_of_not_mem_cons absent
    rw [splitOn, if_neg (Ne.symm other), ih absent]

/-- A separator between the parts gives the text back. -/
theorem intercalate_splitOn {α : Type} [DecidableEq α] (separator : α) (cs : List α) :
    [separator].intercalate (splitOn separator cs) = cs := by
  induction cs with
  | nil => rfl
  | cons c rest ih =>
    unfold splitOn
    cases parts : splitOn separator rest with
    | nil => exact absurd parts (splitOn_ne_nil separator rest)
    | cons part others =>
      rw [parts] at ih
      by_cases same : c = separator
      · rw [if_pos same, List.intercalate_cons_of_ne_nil (List.cons_ne_nil _ _), ih, same]
        rfl
      · rw [if_neg same]
        cases others with
        | nil => simpa using ih
        | cons => simpa [List.intercalate_cons_cons] using ih

/-- A character that is no separator is in the text if it is in a part. -/
theorem not_mem_of_mem_splitOn {α : Type} [DecidableEq α] {separator c : α} {cs part : List α}
    (absent : c ∉ cs) (listed : part ∈ splitOn separator cs) : c ∉ part := by
  intro within
  have among := List.mem_flatten.mpr ⟨part, listed, within⟩
  rw [flatten_splitOn] at among
  exact absent (List.mem_of_mem_filter among)

/-! ## Tabs -/

theorem expandTabs_of_not_mem {cs : List Char} (absent : '\t' ∉ cs) : expandTabs cs = cs := by
  have unchanged : ∀ line ∈ splitOn '\n' cs, joinParts 0 (splitOn '\t' line) = line := by
    intro line listed
    rw [splitOn_of_not_mem (not_mem_of_mem_splitOn absent listed)]
    rfl
  rw [expandTabs, List.map_congr_left unchanged, List.map_id', intercalate_splitOn]

variable {c : Char}

theorem count_joinParts (visible : c ≠ ' ') (column : Nat) (parts : List (List Char)) :
    (joinParts column parts).count c = parts.flatten.count c := by
  fun_induction joinParts column parts with
  | case1 => rfl
  | case2 => simp
  | case3 column part rest nonempty reached more ih =>
    simp [ih, List.count_replicate, Ne.symm visible]

theorem count_intercalate {separator : Char} (other : c ≠ separator) (parts : List (List Char)) :
    ([separator].intercalate parts).count c = parts.flatten.count c := by
  induction parts with
  | nil => rfl
  | cons part parts ih =>
    cases parts with
    | nil => simp
    | cons next others =>
      rw [List.intercalate_cons_cons, List.flatten_cons]
      simp only [List.count_append, ih, List.count_singleton, beq_iff_eq, Ne.symm other, if_false,
        Nat.add_zero]

/-- Of each character that is neither a space nor a line feed there are as many as
before, except that no tab is left. -/
theorem count_expandTabs (visible : c ≠ ' ') (inLine : c ≠ '\n') (cs : List Char) :
    (expandTabs cs).count c = (cs.filter (· ≠ '\t')).count c := by
  have lines : ∀ lines : List (List Char),
      (lines.map fun line => joinParts 0 (splitOn '\t' line)).flatten.count c =
        (lines.flatten.filter (· ≠ '\t')).count c := by
    intro lines
    induction lines with
    | nil => rfl
    | cons line lines ih =>
      simp only [List.map_cons, List.flatten_cons, List.count_append, List.filter_append, ih,
        count_joinParts visible, flatten_splitOn]
  rw [expandTabs, count_intercalate inLine, lines, flatten_splitOn, List.filter_comm,
    List.count_filter (by simpa using inLine)]

theorem tab_not_mem_expandTabs (cs : List Char) : '\t' ∉ expandTabs cs := by
  rw [← List.count_eq_zero, count_expandTabs (by decide) (by decide), List.count_eq_zero]
  simp

end RunOnce.Text
