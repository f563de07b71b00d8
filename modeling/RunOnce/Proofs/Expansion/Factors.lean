import Mathlib.Data.List.Infix
import RunOnce.Expansion.Reference

/-!
# The parts of an expression

An expression is plain text with references in it, `$(` and a name and `)`, and after them
perhaps a `$(` that is never closed. No plain text holds a `$(` and no name holds a `)`, so
there is just one way to read a text like this, and its pieces are the parts read from left
to right.
-/

namespace RunOnce.Expansion

/-! ## Parts and their text -/

/-- What is read as an expression. -/
structure Factors where
  /-- The names in references, each with the plain text in front of the reference. -/
  references : List (List Char × List Char)
  /-- The plain text after the last reference. -/
  last : List Char
  /-- What follows a `$(` that is never closed. -/
  tail? : Option (List Char)
deriving DecidableEq, Repr

/-- The text that begins with a `$(`, if there is one. -/
def opening : Option (List Char) → List Char
  | none => []
  | some rest => '$' :: '(' :: rest

/-- The text that begins with a `)`, if there is one. -/
def closing : Option (List Char) → List Char
  | none => []
  | some rest => ')' :: rest

/-- The text of references and of the plain text in front of them. -/
def referenceText (references : List (List Char × List Char)) : List Char :=
  references.flatMap fun reference => reference.1 ++ '$' :: '(' :: reference.2 ++ [')']

namespace Factors

/-- The text of an expression. -/
def source (factors : Factors) : List Char :=
  referenceText factors.references ++ factors.last ++ opening factors.tail?

/-- The rules of the grammar. -/
structure Lawful (factors : Factors) : Prop where
  plain : ∀ reference ∈ factors.references, ¬ ['$', '('] <:+: reference.1
  names : ∀ reference ∈ factors.references, ')' ∉ reference.2
  last : ¬ ['$', '('] <:+: factors.last
  tail : ∀ rest ∈ factors.tail?, ')' ∉ rest

/-- Whether a text is read like this. -/
def Factorize (factors : Factors) (raw : String) : Prop :=
  factors.source = raw.toList ∧ factors.Lawful

/-- The pieces of an expression that starts at an offset. -/
def piecesOf (last : List Char) (tail? : Option (List Char)) (offset : Nat) :
    List (List Char × List Char) → List Piece
  | [] => .plain last :: (tail?.map (.unterminated (offset + last.length))).toList
  | (plain, name) :: rest =>
    let start := offset + plain.length
    .plain plain :: .reference start name :: piecesOf last tail? (start + name.length + 3) rest

theorem lawful_cons_iff {plain name last : List Char} {rest : List (List Char × List Char)}
    {tail? : Option (List Char)} :
    Lawful ⟨(plain, name) :: rest, last, tail?⟩ ↔
      ¬ ['$', '('] <:+: plain ∧ ')' ∉ name ∧ Lawful ⟨rest, last, tail?⟩ := by
  constructor
  · intro lawful
    obtain ⟨plainHere, plainLater⟩ := List.forall_mem_cons.mp lawful.plain
    obtain ⟨nameHere, namesLater⟩ := List.forall_mem_cons.mp lawful.names
    exact ⟨plainHere, nameHere, plainLater, namesLater, lawful.last, lawful.tail⟩
  · rintro ⟨plainHere, nameHere, lawful⟩
    exact ⟨List.forall_mem_cons.mpr ⟨plainHere, lawful.plain⟩,
      List.forall_mem_cons.mpr ⟨nameHere, lawful.names⟩, lawful.last, lawful.tail⟩

theorem source_cons (plain name last : List Char) (rest : List (List Char × List Char))
    (tail? : Option (List Char)) :
    source ⟨(plain, name) :: rest, last, tail?⟩ =
      plain ++ '$' :: '(' :: (name ++ ')' :: source ⟨rest, last, tail?⟩) := by
  simp [source, referenceText]

theorem length_referenceText_cons (plain name : List Char)
    (rest : List (List Char × List Char)) :
    (referenceText ((plain, name) :: rest)).length =
      plain.length + name.length + 3 + (referenceText rest).length := by
  simp [referenceText]
  omega

/-- A reference takes three characters and its name. -/
theorem three_mul_length_le (factors : Factors) :
    3 * factors.references.length ≤ factors.source.length := by
  obtain ⟨references, last, tail?⟩ := factors
  induction references with
  | nil => exact Nat.zero_le _
  | cons reference rest ih =>
    obtain ⟨plain, name⟩ := reference
    rw [source_cons]
    simp only [List.length_append, List.length_cons] at ih ⊢
    omega

/-- Different parts are read as different pieces. -/
theorem piecesOf_inj {first second : Factors} {offset : Nat}
    (same : piecesOf first.last first.tail? offset first.references =
      piecesOf second.last second.tail? offset second.references) : first = second := by
  obtain ⟨references, last, tail?⟩ := first
  obtain ⟨others, otherLast, otherTail?⟩ := second
  induction references generalizing others offset with
  | nil =>
    cases others with
    | nil => cases tail? <;> cases otherTail? <;> simp_all [piecesOf]
    | cons other others => cases tail? <;> simp [piecesOf] at same
  | cons reference rest ih =>
    cases others with
    | nil => cases otherTail? <;> simp [piecesOf] at same
    | cons other others =>
      simp only [piecesOf, List.cons.injEq, Piece.plain.injEq, Piece.reference.injEq] at same
      obtain ⟨plain, ⟨_, name⟩, later⟩ := same
      rw [plain, name] at later
      obtain ⟨rfl, rfl, rfl⟩ := Factors.mk.injEq .. ▸ ih others later
      rw [Prod.ext plain name]

end Factors

/-! ## Reading an expression -/

/-- Text is cut at its first `$(`. -/
theorem breakOpening_eq_iff {cs before : List Char} {after? : Option (List Char)} :
    breakOpening cs = (before, after?) ↔
      cs = before ++ opening after? ∧ ¬ ['$', '('] <:+: before := by
  fun_induction breakOpening cs generalizing before with
  | case1 => cases before <;> cases after? <;> simp [opening]
  | case2 rest =>
    rcases before with _ | ⟨c, _ | ⟨d, before⟩⟩
    · cases after? <;> simp [opening]
    · cases after? <;> simp [opening]
    · refine iff_of_false (by simp) ?_
      rintro ⟨same, absent⟩
      obtain ⟨rfl, next⟩ := List.cons.inj same
      obtain ⟨rfl, _⟩ := List.cons.inj next
      exact absent ⟨[], before, rfl⟩
  | case3 c tail elsewhere ih =>
    cases before with
    | nil =>
      refine iff_of_false (by simp [Prod.map]) ?_
      rintro ⟨same, _⟩
      cases after? with
      | none => cases same
      | some inner =>
        obtain ⟨first, next⟩ := List.cons.inj same
        exact elsewhere inner first next
    | cons d before =>
      have later : Prod.map (c :: ·) id (breakOpening tail) = (d :: before, after?) ↔
          c = d ∧ breakOpening tail = (before, after?) := by
        simp [Prod.ext_iff, and_assoc]
      rw [later, ih, List.cons_append, List.cons.injEq, List.infix_cons_iff, not_or, and_assoc]
      refine and_congr_right fun same => and_congr_right fun text => ?_
      refine iff_and_self.mpr fun _ here => ?_
      -- An opening at the very start was ruled out.
      obtain ⟨first, next⟩ := List.cons_prefix_cons.mp here
      obtain ⟨rest, rfl⟩ := next
      exact elsewhere (rest ++ opening after?) (same.trans first.symm) (by simp [text])

/-- Text is cut at its first `)`. -/
theorem breakClosing_eq_iff {cs before : List Char} {after? : Option (List Char)} :
    breakClosing cs = (before, after?) ↔ cs = before ++ closing after? ∧ ')' ∉ before := by
  fun_induction breakClosing cs generalizing before with
  | case1 => cases before <;> cases after? <;> simp [closing]
  | case2 rest =>
    cases before with
    | nil => cases after? <;> simp [closing]
    | cons d before =>
      refine iff_of_false (by simp) ?_
      rintro ⟨same, absent⟩
      obtain ⟨first, _⟩ := List.cons.inj same
      exact absent (first ▸ List.mem_cons_self)
  | case3 c tail other ih =>
    cases before with
    | nil =>
      refine iff_of_false (by simp [Prod.map]) ?_
      rintro ⟨same, _⟩
      cases after? with
      | none => cases same
      | some inner => exact other (List.cons.inj same).1
    | cons d before =>
      have later : Prod.map (c :: ·) id (breakClosing tail) = (d :: before, after?) ↔
          c = d ∧ breakClosing tail = (before, after?) := by
        simp [Prod.ext_iff, and_assoc]
      rw [later, ih, List.cons_append, List.cons.injEq, List.mem_cons, not_or, and_assoc]
      refine and_congr_right fun same => and_congr_right fun _ => ?_
      exact (and_iff_right (same ▸ Ne.symm other)).symm

section Pieces

variable {offset : Nat} {cs before inner name rest : List Char}

theorem pieces_of_plain (opened : breakOpening cs = (before, none)) :
    pieces offset cs = [.plain before] := by
  unfold pieces
  split
  · rw [opened]
  · rename_i found
    rw [opened] at found
    cases found

theorem pieces_of_unclosed (opened : breakOpening cs = (before, some inner))
    (unclosed : breakClosing inner = (name, none)) :
    pieces offset cs = [.plain before, .unterminated (offset + before.length) inner] := by
  unfold pieces
  split
  · rename_i found
    rw [opened] at found
    cases found
  · rename_i found
    rw [opened] at found
    cases found
    split
    · rw [opened]
    · rename_i found
      rw [unclosed] at found
      cases found

theorem pieces_of_closed (opened : breakOpening cs = (before, some inner))
    (closed : breakClosing inner = (name, some rest)) :
    pieces offset cs =
      .plain before :: .reference (offset + before.length) name ::
        pieces (offset + before.length + name.length + 3) rest := by
  rw [pieces]
  split
  · rename_i found
    rw [opened] at found
    cases found
  · rename_i found
    rw [opened] at found
    cases found
    split
    · rename_i found
      rw [closed] at found
      cases found
    · rename_i found
      rw [closed] at found
      cases found
      simp only [opened, closed]

end Pieces

namespace Factors

/-- The pieces of the text of an expression are its parts. -/
theorem pieces_source {factors : Factors} (lawful : factors.Lawful) (offset : Nat) :
    pieces offset factors.source =
      piecesOf factors.last factors.tail? offset factors.references := by
  obtain ⟨references, last, tail?⟩ := factors
  induction references generalizing offset with
  | nil =>
    have opened : breakOpening (source ⟨[], last, tail?⟩) = (last, tail?) :=
      breakOpening_eq_iff.mpr ⟨rfl, lawful.last⟩
    cases tail? with
    | none => rw [pieces_of_plain opened]; rfl
    | some rest =>
      have unclosed : breakClosing rest = (rest, none) :=
        breakClosing_eq_iff.mpr ⟨(List.append_nil rest).symm, lawful.tail rest rfl⟩
      rw [pieces_of_unclosed opened unclosed]
      rfl
  | cons reference rest ih =>
    obtain ⟨plain, name⟩ := reference
    obtain ⟨plainHere, nameHere, lawfulRest⟩ := lawful_cons_iff.mp lawful
    have opened : breakOpening (source ⟨(plain, name) :: rest, last, tail?⟩) =
        (plain, some (name ++ ')' :: source ⟨rest, last, tail?⟩)) :=
      breakOpening_eq_iff.mpr ⟨source_cons .., plainHere⟩
    have closed : breakClosing (name ++ ')' :: source ⟨rest, last, tail?⟩) =
        (name, some (source ⟨rest, last, tail?⟩)) :=
      breakClosing_eq_iff.mpr ⟨rfl, nameHere⟩
    rw [pieces_of_closed opened closed, ih _ lawfulRest]
    rfl

/-- Every text can be read as an expression. -/
theorem exists_lawful (cs : List Char) :
    ∃ factors : Factors, factors.source = cs ∧ factors.Lawful := by
  induction sized : cs.length using Nat.strongRecOn generalizing cs with
  | ind size ih =>
    obtain ⟨before, after?, opened⟩ : ∃ before after?, breakOpening cs = (before, after?) :=
      ⟨_, _, rfl⟩
    obtain ⟨text, plain⟩ := breakOpening_eq_iff.mp opened
    cases after? with
    | none => exact ⟨⟨[], before, none⟩, text.symm, ⟨by simp, by simp, plain, by simp⟩⟩
    | some inner =>
      obtain ⟨name, rest?, closed⟩ : ∃ name rest?, breakClosing inner = (name, rest?) :=
        ⟨_, _, rfl⟩
      obtain ⟨innerText, nameHere⟩ := breakClosing_eq_iff.mp closed
      cases rest? with
      | none =>
        rw [closing, List.append_nil] at innerText
        refine ⟨⟨[], before, some inner⟩, text.symm, by simp, by simp, plain, ?_⟩
        rintro _ ⟨⟩
        rwa [innerText]
      | some rest =>
        have shorter : rest.length < size := by
          rw [← sized, text, opening, innerText, closing]
          simp only [List.length_append, List.length_cons]
          omega
        obtain ⟨⟨references, last, tail?⟩, source, lawful⟩ := ih _ shorter rest rfl
        refine ⟨⟨(before, name) :: references, last, tail?⟩, ?_,
          lawful_cons_iff.mpr ⟨plain, nameHere, lawful⟩⟩
        rw [source_cons, source, text, innerText]
        rfl

/-- There is one way to read a text. -/
theorem existsUnique_factorize (raw : String) : ∃! factors : Factors, factors.Factorize raw := by
  obtain ⟨factors, source, lawful⟩ := exists_lawful raw.toList
  refine ⟨factors, ⟨source, lawful⟩, ?_⟩
  rintro other ⟨otherSource, otherLawful⟩
  have pieces := pieces_source lawful 0
  rw [source, ← otherSource, pieces_source otherLawful 0] at pieces
  exact piecesOf_inj pieces

end Factors

end RunOnce.Expansion
