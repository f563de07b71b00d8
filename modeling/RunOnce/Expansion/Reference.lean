/-!
# Property references

A raw expression is plain text with property references `$(name)`. Reading from
the left, a reference starts at the first `$(` and ends at the next `)`; what
lies between is its name. A `$(` that is never closed ends the reading.
-/

namespace RunOnce.Expansion

/-- A part of a raw expression. Offsets count characters. -/
inductive Piece
  | plain (characters : List Char)
  | reference (offset : Nat) (name : List Char)
  | unterminated (offset : Nat) (rest : List Char)
deriving DecidableEq, Repr

/-- The characters that a piece was read from. -/
def Piece.source : Piece → List Char
  | plain characters => characters
  | reference _ name => '$' :: '(' :: name ++ [')']
  | unterminated _ rest => '$' :: '(' :: rest

/-- The text before the first `$(`, and what follows it. -/
def breakOpening : List Char → List Char × Option (List Char)
  | [] => ([], none)
  | '$' :: '(' :: rest => ([], some rest)
  | c :: rest => Prod.map (c :: ·) id (breakOpening rest)

/-- The text before the first `)`, and what follows it. -/
def breakClosing : List Char → List Char × Option (List Char)
  | [] => ([], none)
  | c :: rest =>
    if c = ')' then ([], some rest) else Prod.map (c :: ·) id (breakClosing rest)

theorem breakOpening_length {cs rest : List Char} (found : (breakOpening cs).2 = some rest) :
    (breakOpening cs).1.length + 2 + rest.length = cs.length := by
  fun_induction breakOpening cs with
  | case1 => simp at found
  | case2 tail => simp_all; omega
  | case3 c tail _ ih =>
    have := ih found
    simp; omega

theorem breakClosing_length {cs rest : List Char} (found : (breakClosing cs).2 = some rest) :
    (breakClosing cs).1.length + 1 + rest.length = cs.length := by
  fun_induction breakClosing cs with
  | case1 => simp at found
  | case2 tail => simp_all; omega
  | case3 c tail h ih =>
    have := ih found
    simp; omega

/-- The pieces of an expression that starts at an offset. -/
def pieces (offset : Nat) (cs : List Char) : List Piece :=
  let before := (breakOpening cs).1
  match opened : (breakOpening cs).2 with
  | none => [.plain before]
  | some inner =>
    let start := offset + before.length
    match closed : (breakClosing inner).2 with
    | none => [.plain before, .unterminated start inner]
    | some rest =>
      have := breakOpening_length opened
      have := breakClosing_length closed
      let name := (breakClosing inner).1
      .plain before :: .reference start name :: pieces (start + name.length + 3) rest
termination_by cs.length

end RunOnce.Expansion
