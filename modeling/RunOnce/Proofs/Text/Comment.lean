import RunOnce.Proofs.Text.Token
import RunOnce.Text.Comment

/-!
# Where a comment ends

A block comment is read up to the first terminator after its opening. The text inside has
every terminator broken up, and breaking one up brings no other one about. So whatever the
text is, what it begins with and what it ends with, its comment ends where it is meant to.

A remark is read up to the end of its line. So it ends where it is meant to only if there
is no line break in its text.
-/

namespace RunOnce.Text.Comment

open Literal (OnlyAtEnd onlyAtEnd_nil onlyAtEnd_cons_iff isLineBreak hasLineBreak)

/-- The end of a comment. -/
def terminator : List Char := ['*', '/']

/-- Whether a text is one comment: it opens like one, and it ends with a terminator, which
is the first one that begins at the third character or later. -/
structure OneToken (comment : List Char) : Prop where
  opens : ['/', '*'] <+: comment
  closes : ∃ before, comment = before ++ terminator ∧ 2 ≤ before.length
  first : ∀ before after, comment = before ++ (terminator ++ after) → 2 ≤ before.length →
    after = []

/-! ## Escaped text -/

/-- Breaking up terminators leaves the first character alone. -/
theorem head?_escape (cs : List Char) : (escape cs).head? = cs.head? := by
  fun_cases escape cs <;> rfl

/-- A terminator after an escaped text is the first one. -/
theorem onlyAtEnd_escape (cs : List Char) : OnlyAtEnd terminator (escape cs) := by
  fun_induction escape cs with
  | case1 => exact onlyAtEnd_nil terminator
  | case2 rest ih =>
    rw [onlyAtEnd_cons_iff, onlyAtEnd_cons_iff, onlyAtEnd_cons_iff]
    refine ⟨?_, ?_, ?_, ih⟩ <;> simp [terminator]
  | case3 c rest unbroken ih =>
    rw [onlyAtEnd_cons_iff]
    refine ⟨?_, ih⟩
    intro here
    obtain ⟨rfl, next⟩ := List.cons_prefix_cons.mp here
    -- A slash next to the star would be the first character of the text itself.
    have slash : (escape rest ++ terminator).head? = some '/' := by
      obtain ⟨after, same⟩ := next
      rw [← same]
      rfl
    rw [List.head?_append, head?_escape] at slash
    cases rest with
    | nil => simp [terminator] at slash
    | cons d rest =>
      simp only [List.head?_cons, Option.some_or, Option.some.injEq] at slash
      exact unbroken rest rfl (by rw [slash])

/-! ## Block comments -/

theorem oneToken_encodeChars (cs : List Char) : OneToken (encodeChars cs) := by
  refine ⟨List.prefix_append _ (escape cs ++ terminator), ?_, ?_⟩
  · exact ⟨'/' :: '*' :: escape cs, rfl, by simp⟩
  · intro before after same behind
    match before, behind with
    | first :: second :: before, _ =>
      have inside := (List.cons.inj (List.cons.inj same).2).2
      exact onlyAtEnd_escape cs before after inside

theorem oneToken_encode (text : String) : OneToken (encode text).toList := by
  rw [encode, String.toList_ofList]
  exact oneToken_encodeChars text.toList

/-! ## Remarks -/

/-- Read a remark, with what comes after it. -/
def readRemark (cs : List Char) : List Char × List Char :=
  cs.span fun c => !isLineBreak c

theorem readRemark_append_cons {inside : List Char} {c : Char}
    (unbroken : hasLineBreak inside = false) (breaks : isLineBreak c = true)
    (after : List Char) : readRemark (inside ++ c :: after) = (inside, c :: after) := by
  have kept : ∀ d ∈ inside, (!isLineBreak d) = true := by
    intro d listed
    rw [hasLineBreak, List.any_eq_false] at unbroken
    simpa using unbroken d listed
  rw [readRemark, List.span_eq_takeWhile_dropWhile, List.takeWhile_append_of_pos kept,
    List.dropWhile_append_of_pos kept]
  simp [breaks]

/-- A text that spans lines falls apart at its first line break. -/
theorem exists_first_lineBreak {cs : List Char} (breaks : hasLineBreak cs = true) :
    ∃ inside c outside, cs = inside ++ c :: outside ∧ hasLineBreak inside = false ∧
      isLineBreak c = true := by
  have isSome := List.find?_isSome.mpr (List.any_eq_true.mp breaks)
  obtain ⟨c, found⟩ := Option.isSome_iff_exists.mp isSome
  obtain ⟨isBreak, inside, outside, rfl, unbroken⟩ := List.find?_eq_some_iff_append.mp found
  refine ⟨inside, c, outside, rfl, ?_, isBreak⟩
  rw [hasLineBreak, List.any_eq_false]
  simpa using unbroken

/-- A remark is read as it was written exactly if its text stays on one line. -/
theorem readRemark_append_cons_eq_iff {text : List Char} {c : Char}
    (breaks : isLineBreak c = true) (after : List Char) :
    readRemark (text ++ c :: after) = (text, c :: after) ↔ hasLineBreak text = false := by
  constructor
  · intro read
    by_contra broken
    rw [Bool.not_eq_false] at broken
    obtain ⟨inside, d, outside, rfl, unbroken, isBreak⟩ := exists_first_lineBreak broken
    rw [List.append_assoc, List.cons_append, readRemark_append_cons unbroken isBreak] at read
    have same := congrArg (fun parts => parts.1.length) read
    simp at same
  · intro unbroken
    exact readRemark_append_cons unbroken breaks after

end RunOnce.Text.Comment
