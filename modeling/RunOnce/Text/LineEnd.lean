/-!
# Line ends

A text may end its lines with a line feed, a carriage return, or both. Read as
lines, all three are the same.
-/

namespace RunOnce.Text

/-- End every line with a line feed. -/
def unifyLineEnds : List Char → List Char
  | [] => []
  | '\r' :: '\n' :: rest => '\n' :: unifyLineEnds rest
  | c :: rest => (if c = '\r' then '\n' else c) :: unifyLineEnds rest

/-- No carriage return is left. -/
theorem not_mem_unifyLineEnds (cs : List Char) : '\r' ∉ unifyLineEnds cs := by
  fun_induction unifyLineEnds cs with
  | case1 => simp
  | case2 rest inductionHypothesis => simp [inductionHypothesis]
  | case3 c rest _ inductionHypothesis =>
    by_cases isReturn : c = '\r'
    · simp [isReturn, inductionHypothesis]
    · simp [isReturn, inductionHypothesis, Ne.symm isReturn]

end RunOnce.Text
