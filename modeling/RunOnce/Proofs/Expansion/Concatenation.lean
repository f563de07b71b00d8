import RunOnce.Proofs.Expansion.Grammar

/-!
# Expressions that are put together

Two expressions that are joined have the references of both and no others, unless a `$` at
the end of the first one meets a `(` at the start of the second, or a `$(` that the first one
leaves open is closed in the second. Apart from that the values are joined, the first offence
in the first expression is the first one in the whole, and an offence in the second one stays
the same but for its offset.
-/

namespace RunOnce.Expansion

/-! ## Expressions further back -/

/-- The reason for an expression that stands so many characters further back. -/
def Reason.moved (distance : Nat) : Reason → Reason
  | unterminated offset => unterminated (distance + offset)
  | empty offset => empty (distance + offset)
  | undefined name => undefined name
  | other text => other text

/-- A piece that stands so many characters further back. -/
def Piece.moved (distance : Nat) : Piece → Piece
  | plain characters => plain characters
  | reference offset name => reference (distance + offset) name
  | unterminated offset rest => unterminated (distance + offset) rest

theorem pieces_moved (distance offset : Nat) (cs : List Char) :
    pieces (distance + offset) cs = (pieces offset cs).map (Piece.moved distance) := by
  induction sized : cs.length using Nat.strongRecOn generalizing cs offset with
  | ind size ih =>
    obtain ⟨before, after?, opened⟩ : ∃ before after?, breakOpening cs = (before, after?) :=
      ⟨_, _, rfl⟩
    cases after? with
    | none =>
      rw [pieces_of_plain opened, pieces_of_plain opened]
      rfl
    | some inner =>
      obtain ⟨name, rest?, closed⟩ : ∃ name rest?, breakClosing inner = (name, rest?) :=
        ⟨_, _, rfl⟩
      cases rest? with
      | none =>
        rw [pieces_of_unclosed opened closed, pieces_of_unclosed opened closed, Nat.add_assoc]
        rfl
      | some rest =>
        have shorter : rest.length < size := by
          have outside := breakOpening_length (congrArg Prod.snd opened)
          have inside := breakClosing_length (congrArg Prod.snd closed)
          omega
        have start : distance + offset + before.length + name.length + 3 =
            distance + (offset + before.length + name.length + 3) := by omega
        rw [pieces_of_closed opened closed, pieces_of_closed opened closed, start,
          ih _ shorter _ rest rfl, Nat.add_assoc distance]
        rfl

namespace PropertyTable

variable (table : PropertyTable)

theorem expandPiece_moved (distance : Nat) (piece : Piece) :
    table.expandPiece (piece.moved distance) =
      (table.expandPiece piece).mapError (Reason.moved distance) := by
  cases piece with
  | plain characters => rfl
  | unterminated offset rest => rfl
  | reference offset name =>
    simp only [Piece.moved, expandPiece]
    split
    · rfl
    · split <;> rfl

theorem expandPieces_moved (distance : Nat) (parts : List Piece) :
    table.expandPieces (parts.map (Piece.moved distance)) =
      (table.expandPieces parts).mapError (Reason.moved distance) := by
  induction parts with
  | nil => rfl
  | cons piece rest ih =>
    rw [List.map_cons, expandPieces, expandPieces, expandPiece_moved, ih]
    cases table.expandPiece piece with
    | error reason => rfl
    | ok first => cases table.expandPieces rest <;> rfl

/-! ## Pieces in front of others -/

theorem expandPieces_append (front back : List Piece) :
    table.expandPieces (front ++ back) =
      (table.expandPieces front).bind fun first =>
        (table.expandPieces back).map (first ++ ·) := by
  induction front with
  | nil =>
    rw [List.nil_append, expandPieces]
    cases table.expandPieces back <;> simp [Except.bind, Except.map]
  | cons piece rest ih =>
    rw [List.cons_append, expandPieces, expandPieces, ih]
    cases table.expandPiece piece with
    | error reason => rfl
    | ok first =>
      cases table.expandPieces rest with
      | error reason => rfl
      | ok others =>
        cases table.expandPieces back <;>
          simp [bind, Except.bind, Except.map, pure, Except.pure, String.append_assoc]

end PropertyTable

/-- The pieces of references and of the plain text in front of them. -/
def referencePieces (offset : Nat) : List (List Char × List Char) → List Piece
  | [] => []
  | (plain, name) :: rest =>
    .plain plain :: .reference (offset + plain.length) name ::
      referencePieces (offset + plain.length + name.length + 3) rest

/-- References that are closed are read alike whatever follows them. -/
theorem pieces_referenceText_append {references : List (List Char × List Char)}
    (plain : ∀ reference ∈ references, ¬ ['$', '('] <:+: reference.1)
    (names : ∀ reference ∈ references, ')' ∉ reference.2) (offset : Nat) (rest : List Char) :
    pieces offset (referenceText references ++ rest) =
      referencePieces offset references ++
        pieces (offset + (referenceText references).length) rest := by
  induction references generalizing offset with
  | nil => rfl
  | cons reference references ih =>
    obtain ⟨text, name⟩ := reference
    obtain ⟨plainHere, plainLater⟩ := List.forall_mem_cons.mp plain
    obtain ⟨nameHere, namesLater⟩ := List.forall_mem_cons.mp names
    have source : referenceText ((text, name) :: references) ++ rest =
        text ++ '$' :: '(' :: (name ++ ')' :: (referenceText references ++ rest)) := by
      simp [referenceText]
    have opened : breakOpening (referenceText ((text, name) :: references) ++ rest) =
        (text, some (name ++ ')' :: (referenceText references ++ rest))) :=
      breakOpening_eq_iff.mpr ⟨source, plainHere⟩
    have closed : breakClosing (name ++ ')' :: (referenceText references ++ rest)) =
        (name, some (referenceText references ++ rest)) :=
      breakClosing_eq_iff.mpr ⟨rfl, nameHere⟩
    have finish : offset + (referenceText ((text, name) :: references)).length =
        offset + text.length + name.length + 3 + (referenceText references).length := by
      rw [Factors.length_referenceText_cons]
      omega
    rw [pieces_of_closed opened closed, ih plainLater namesLater, finish]
    rfl

/-! ## The seam -/

/-- No `$(` begins where two texts without one are joined, unless the `$` ends the first and
the `(` starts the second. -/
theorem opening_not_infix_append {front back : List Char}
    (apart : ¬ (front.getLast? = some '$' ∧ back.head? = some '('))
    (frontPlain : ¬ ['$', '('] <:+: front) (backPlain : ¬ ['$', '('] <:+: back) :
    ¬ ['$', '('] <:+: front ++ back := by
  induction front with
  | nil => exact backPlain
  | cons c rest ih =>
    rw [List.infix_cons_iff, not_or] at frontPlain
    obtain ⟨notHere, restPlain⟩ := frontPlain
    rw [List.cons_append, List.infix_cons_iff, not_or]
    constructor
    · -- What stands first is in the first text, or else it is the seam.
      cases rest with
      | nil =>
        rintro ⟨tail, same⟩
        obtain ⟨rfl, next⟩ := List.cons.inj same
        exact apart ⟨rfl, by rw [List.nil_append] at next; rw [← next]; rfl⟩
      | cons d rest =>
        rintro ⟨tail, same⟩
        obtain ⟨rfl, next⟩ := List.cons.inj same
        obtain ⟨rfl, _⟩ := List.cons.inj next
        exact notHere ⟨rest, rfl⟩
    · apply ih _ restPlain
      rintro ⟨last, first⟩
      cases rest with
      | nil => cases last
      | cons d rest => exact apart ⟨last, first⟩

/-- Plain text in front of an expression is put in front of its expansion. -/
theorem expandPieces_plain_append (table : PropertyTable) {front : List Char}
    (plain : ¬ ['$', '('] <:+: front) {back : List Char}
    (apart : ¬ (front.getLast? = some '$' ∧ back.head? = some '(')) (offset : Nat) :
    table.expandPieces (pieces offset (front ++ back)) =
      (table.expandPieces (pieces (offset + front.length) back)).map
        (String.ofList front ++ ·) := by
  obtain ⟨before, after?, opened⟩ : ∃ before after?, breakOpening back = (before, after?) :=
    ⟨_, _, rfl⟩
  obtain ⟨text, beforePlain⟩ := breakOpening_eq_iff.mp opened
  have seam : ¬ (front.getLast? = some '$' ∧ before.head? = some '(') := by
    rintro ⟨last, first⟩
    exact apart ⟨last, by rw [text, List.head?_append, first]; rfl⟩
  have joined : breakOpening (front ++ back) = (front ++ before, after?) :=
    breakOpening_eq_iff.mpr
      ⟨by rw [text, List.append_assoc], opening_not_infix_append seam plain beforePlain⟩
  -- Only the first piece of the second text changes: the first text is put in front of it.
  obtain ⟨others, alone, whole⟩ : ∃ others,
      pieces (offset + front.length) back = .plain before :: others ∧
        pieces offset (front ++ back) = .plain (front ++ before) :: others := by
    have start : offset + (front ++ before).length = offset + front.length + before.length := by
      rw [List.length_append, Nat.add_assoc]
    cases after? with
    | none => exact ⟨_, pieces_of_plain opened, pieces_of_plain joined⟩
    | some inner =>
      obtain ⟨name, rest?, closed⟩ : ∃ name rest?, breakClosing inner = (name, rest?) :=
        ⟨_, _, rfl⟩
      cases rest? with
      | none =>
        refine ⟨_, pieces_of_unclosed opened closed, ?_⟩
        rw [pieces_of_unclosed joined closed, start]
      | some rest =>
        refine ⟨_, pieces_of_closed opened closed, ?_⟩
        rw [pieces_of_closed joined closed, start]
  rw [alone, whole, PropertyTable.expandPieces, PropertyTable.expandPieces]
  cases table.expandPieces others <;>
    simp [PropertyTable.expandPiece, bind, Except.bind, Except.map, pure, Except.pure,
      String.ofList_append, String.append_assoc]

namespace PropertyTable

variable {table : PropertyTable} {front back : String}

/-- What is wrong with a reference is wrong whatever follows the expression. -/
theorem expand_append_of_error {reason : Reason} (failed : table.expand front = .error reason)
    (closed : ∀ offset, reason ≠ .unterminated offset) :
    table.expand (front ++ back) = .error reason := by
  obtain ⟨⟨references, last, tail?⟩, source, lawful⟩ := Factors.exists_lawful front.toList
  have read := pieces_referenceText_append lawful.plain lawful.names 0
  rw [expand, ← source, Factors.source, List.append_assoc, read, expandPieces_append] at failed
  rw [expand, String.toList_append, ← source, Factors.source, List.append_assoc,
    List.append_assoc, read, expandPieces_append]
  cases first : table.expandPieces (referencePieces 0 references) with
  | error other =>
    rw [first] at failed
    exact failed
  | ok value =>
    -- After the last reference, all that can be wrong is an open `$(`.
    rw [first] at failed
    obtain ⟨_, _, plain, tail⟩ := lawful
    have opened : breakOpening (last ++ opening tail?) = (last, tail?) :=
      breakOpening_eq_iff.mpr ⟨rfl, plain⟩
    cases tail? with
    | none =>
      rw [pieces_of_plain opened, expandPieces_plain] at failed
      cases failed
    | some rest =>
      have unclosed : breakClosing rest = (rest, none) :=
        breakClosing_eq_iff.mpr ⟨(List.append_nil rest).symm, tail rest rfl⟩
      rw [pieces_of_unclosed opened unclosed, expandPieces_unterminated] at failed
      cases failed
      exact absurd rfl (closed _)

/-- An expression with a value is made of references that are closed and of plain text. -/
theorem exists_references_of_expand_eq_ok {value : String}
    (expanded : table.expand front = .ok value) :
    ∃ references last, front.toList = referenceText references ++ last ∧
      (∀ reference ∈ references, ¬ ['$', '('] <:+: reference.1) ∧
      (∀ reference ∈ references, ')' ∉ reference.2) ∧ ¬ ['$', '('] <:+: last := by
  obtain ⟨⟨references, last, tail?⟩, source, lawful⟩ := Factors.exists_lawful front.toList
  obtain rfl : tail? = none := by
    rw [expand, ← source, Factors.pieces_source lawful,
      Factors.expandPieces_piecesOf_eq_ok_iff] at expanded
    exact expanded.1
  refine ⟨references, last, ?_, lawful.plain, lawful.names, lawful.last⟩
  rw [← source, Factors.source, opening, List.append_nil]

/-- After an expression with a value, the other one expands as it does alone, further
back. -/
theorem expand_append_of_ok {value : String} (expanded : table.expand front = .ok value)
    (apart : ¬ (front.toList.getLast? = some '$' ∧ back.toList.head? = some '(')) :
    table.expand (front ++ back) =
      ((table.expand back).mapError (Reason.moved front.length)).map (value ++ ·) := by
  obtain ⟨references, last, source, plain, names, lastPlain⟩ :=
    exists_references_of_expand_eq_ok expanded
  have read := pieces_referenceText_append plain names 0
  have seam : ¬ (last.getLast? = some '$' ∧ back.toList.head? = some '(') := by
    rintro ⟨final, first⟩
    exact apart ⟨by rw [source, List.getLast?_append, final]; rfl, first⟩
  have lastAlone : table.expandPieces (pieces (0 + (referenceText references).length) last) =
      .ok (String.ofList last) := by
    rw [pieces_of_plain (breakOpening_eq_iff.mpr ⟨(List.append_nil last).symm, lastPlain⟩),
      expandPieces_plain]
  have moved : 0 + (referenceText references).length + last.length = front.length + 0 := by
    rw [← String.length_toList, source, List.length_append]
    omega
  rw [expand, source, read, expandPieces_append, lastAlone] at expanded
  rw [expand, String.toList_append, source, List.append_assoc, read, expandPieces_append,
    expandPieces_plain_append table lastPlain seam, moved, pieces_moved, expandPieces_moved]
  cases first : table.expandPieces (referencePieces 0 references) with
  | error reason =>
    rw [first] at expanded
    cases expanded
  | ok start =>
    rw [first] at expanded
    cases expanded
    rw [expand]
    cases table.expandPieces (pieces 0 back.toList) <;>
      simp [Except.bind, Except.map, Except.mapError, String.append_assoc]

/-- How two expressions expand that are put together so that no `$` of the first one meets a
`(` of the second. Two values are joined. If the first expression does not expand since a
reference in it is undefined or empty, the whole does not expand for the same reason. If the
first one expands and the second one does not since a reference in it is undefined, the whole
does not expand for that reason. -/
theorem expansion_composes (table : PropertyTable) {front back : String}
    (apart : ¬ (front.toList.getLast? = some '$' ∧ back.toList.head? = some '(')) :
    (∀ first second, table.expand front = .ok first → table.expand back = .ok second →
      table.expand (front ++ back) = .ok (first ++ second)) ∧
    (∀ reason, ((∃ name, reason = .undefined name) ∨ ∃ offset, reason = .empty offset) →
      table.expand front = .error reason → table.expand (front ++ back) = .error reason) ∧
    ∀ first name, table.expand front = .ok first →
      table.expand back = .error (.undefined name) →
      table.expand (front ++ back) = .error (.undefined name) := by
  refine ⟨fun first second expanded follows => ?_, fun reason kind failed => ?_,
    fun first name expanded failed => ?_⟩
  · rw [expand_append_of_ok expanded apart, follows]
    rfl
  · refine expand_append_of_error failed fun offset same => ?_
    obtain ⟨name, rfl⟩ | ⟨other, rfl⟩ := kind <;> cases same
  · rw [expand_append_of_ok expanded apart, failed]
    rfl

/-- A `$` in front of a reference, a `)` that closes nothing, and a `(` after a `$` that the
seam does not join stay as they are; a name that is unknown on either side is reported. -/
theorem joinedText_expansion_composes :
    ¬ ("$(A)$".toList.getLast? = some '$' ∧ ")($(A)".toList.head? = some '(') ∧
      (PropertyTable.mk [("a", "x$(")]).expand ("$(A)$" ++ ")($(A)") = .ok "x$($)(x$(" ∧
      (PropertyTable.mk [("a", "x$(")]).expand ("$(A)$" ++ ")$( B )") =
        .error (.undefined "B") ∧
      (PropertyTable.mk [("a", "x$(")]).expand ("$( )$(" ++ ")") = .error (.empty 0) := by
  have apart : ¬ ("$(A)$".toList.getLast? = some '$' ∧ ")($(A)".toList.head? = some '(') := by
    decide
  have unknown : ¬ ("$(A)$".toList.getLast? = some '$' ∧ ")$( B )".toList.head? = some '(') := by
    decide
  have blank : ¬ ("$( )$(".toList.getLast? = some '$' ∧ ")".toList.head? = some '(') := by decide
  refine ⟨apart, ?_, ?_, ?_⟩
  · exact (expansion_composes _ apart).1 "x$($" ")(x$(" (by decide +kernel) (by decide +kernel)
  · exact (expansion_composes _ unknown).2.2 "x$($" "B" (by decide +kernel) (by decide +kernel)
  · exact (expansion_composes _ blank).2.1 (.empty 0) (.inr ⟨0, rfl⟩) (by decide +kernel)

end PropertyTable

end RunOnce.Expansion
