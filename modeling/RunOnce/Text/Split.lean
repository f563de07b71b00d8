/-!
# Separated text

A text is cut at a separator into parts, of which there is always one more than
there are separators.
-/

namespace RunOnce.Text

/-- The parts of a text between separators. -/
def splitOn {α : Type} [DecidableEq α] (separator : α) : List α → List (List α)
  | [] => [[]]
  | c :: rest =>
    if c = separator then [] :: splitOn separator rest
    else match splitOn separator rest with
      | [] => [[c]]
      | part :: parts => (c :: part) :: parts

/-- There is always a part. -/
theorem splitOn_ne_nil {α : Type} [DecidableEq α] (separator : α) (cs : List α) :
    splitOn separator cs ≠ [] := by
  cases cs with
  | nil => simp [splitOn]
  | cons c rest =>
    unfold splitOn
    split
    · simp
    · split <;> simp

end RunOnce.Text
