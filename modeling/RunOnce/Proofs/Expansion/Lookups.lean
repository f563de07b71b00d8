import RunOnce.Proofs.Expansion.Substitution

/-!
# Names that an expression refers to

An expression is scanned from left to right, and the scan stops at the first reference
that has no value. What the expression expands to, or why it does not expand, depends
only on the values of the names whose references the scan finds.
-/

namespace RunOnce.Expansion

open RunOnce.Text

/-- The name in a reference, without blanks around it. -/
def Piece.name? : Piece → Option String
  | .plain _ => none
  | .reference _ name => some (String.ofList (trim name))
  | .unterminated _ _ => none

namespace PropertyTable

/-- The names in the references of a sequence of pieces, up to the first piece that
has no value. -/
def scannedNames (table : PropertyTable) : List Piece → List String
  | [] => []
  | piece :: rest =>
    match table.expandPiece piece with
    | .ok _ => piece.name?.toList ++ table.scannedNames rest
    | .error _ => piece.name?.toList

/-- The names whose references are found when an expression is scanned. -/
def references (table : PropertyTable) (raw : String) : List String :=
  table.scannedNames (pieces 0 raw.toList)

variable {table other : PropertyTable}

/-- A piece has the same value in tables that have the same value for its name. -/
theorem expandPiece_congr {piece : Piece}
    (alike : ∀ name ∈ piece.name?, other.get? name = table.get? name) :
    other.expandPiece piece = table.expandPiece piece := by
  cases piece with
  | plain characters => rfl
  | unterminated offset rest => rfl
  | reference offset name =>
    have found := alike _ rfl
    simp only [expandPiece, found]

theorem expandPieces_congr {parts : List Piece}
    (alike : ∀ name ∈ table.scannedNames parts, other.get? name = table.get? name) :
    other.expandPieces parts = table.expandPieces parts := by
  induction parts with
  | nil => rfl
  | cons piece rest ih =>
    have here : other.expandPiece piece = table.expandPiece piece := by
      apply expandPiece_congr
      intro name named
      apply alike
      unfold scannedNames
      split <;> simp [Option.mem_def.mp named]
    unfold expandPieces
    rw [here]
    cases expanded : table.expandPiece piece with
    | error reason => rfl
    | ok first =>
      -- Only past a piece that has a value are the names of the other pieces found.
      rw [ih]
      intro name later
      apply alike
      rw [scannedNames, expanded]
      exact List.mem_append_right _ later

/-- An expression has the same value, or the same reason to have none, in tables that
have the same values for all names that it refers to. -/
theorem expand_congr {raw : String}
    (alike : ∀ name ∈ table.references raw, other.get? name = table.get? name) :
    other.expand raw = table.expand raw :=
  expandPieces_congr alike

end PropertyTable

end RunOnce.Expansion
