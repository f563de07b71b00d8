import RunOnce.Proofs.Expansion.Factors
import RunOnce.Proofs.Expansion.Substitution

/-!
# Which expressions expand

An expression expands exactly if every name in it has a value and no `$(` is left open, and
then the values stand in the places of the references. If it does not expand, the leftmost
reference without a value says why.
-/

namespace RunOnce.Expansion

open RunOnce.Text

/-! ## Values and offences -/

/-- The name in a reference, without blanks around it. -/
def bareName (name : List Char) : String :=
  String.ofList (trim name)

namespace PropertyTable

/-- Whether a reference by a name has a value: the name is not blank, and the value is that
of the last entry whose name is the same but for its case. -/
def HasValue (table : PropertyTable) (name : List Char) (value : String) : Prop :=
  bareName name ≠ "" ∧
    ∃ before spelling after, table.entries = before ++ (spelling, value) :: after ∧
      lower spelling = lower (bareName name) ∧
      ∀ entry ∈ after, lower entry.1 ≠ lower (bareName name)

/-- Whether a name is not blank and is some entry's name but for its case. -/
def IsKnown (table : PropertyTable) (name : List Char) : Prop :=
  bareName name ≠ "" ∧ ∃ entry ∈ table.entries, lower entry.1 = lower (bareName name)

/-- Why a reference has no value. -/
inductive Refuses (table : PropertyTable) (offset : Nat) (name : List Char) : Reason → Prop
  | empty (unnamed : bareName name = "") : Refuses table offset name (.empty offset)
  | undefined (named : bareName name ≠ "")
      (unknown : ∀ entry ∈ table.entries, lower entry.1 ≠ lower (bareName name)) :
      Refuses table offset name (.undefined (bareName name))

variable {table : PropertyTable}

/-- The value of a name is that of its last entry. -/
theorem get?_eq_some_iff {name value : String} :
    table.get? name = some value ↔
      ∃ before spelling after, table.entries = before ++ (spelling, value) :: after ∧
        lower spelling = lower name ∧ ∀ entry ∈ after, lower entry.1 ≠ lower name := by
  rw [get?, Option.map_eq_some_iff]
  constructor
  · rintro ⟨⟨spelling, _⟩, found, rfl⟩
    obtain ⟨same, after, before, split, others⟩ := List.find?_eq_some_iff_append.mp found
    refine ⟨before.reverse, spelling, after.reverse, ?_, by simpa [sameName] using same, ?_⟩
    · simpa using congrArg List.reverse split
    · intro entry listed
      simpa [sameName] using others entry (List.mem_reverse.mp listed)
  · rintro ⟨before, spelling, after, split, same, others⟩
    refine ⟨(spelling, value), List.find?_eq_some_iff_append.mpr ⟨by simpa [sameName] using same,
      after.reverse, before.reverse, by simp [split], ?_⟩, rfl⟩
    intro entry listed
    simpa [sameName] using others entry (List.mem_reverse.mp listed)

theorem get?_eq_none_iff {name : String} :
    table.get? name = none ↔ ∀ entry ∈ table.entries, lower entry.1 ≠ lower name := by
  simp [get?, sameName]

theorem isKnown_iff_exists_hasValue {name : List Char} :
    table.IsKnown name ↔ ∃ value, table.HasValue name value := by
  have found : (∃ entry ∈ table.entries, lower entry.1 = lower (bareName name)) ↔
      ∃ value, table.get? (bareName name) = some value := by
    rw [← Option.ne_none_iff_exists', ne_eq, get?_eq_none_iff]
    simp
  simp only [IsKnown, HasValue, exists_and_left, found, get?_eq_some_iff]

theorem expandPiece_reference_eq_ok_iff {offset : Nat} {name : List Char} {value : String} :
    table.expandPiece (.reference offset name) = .ok value ↔ table.HasValue name value := by
  rw [expandPiece_eq_ok_iff, HasValue, ← get?_eq_some_iff]
  constructor
  · rintro (_ | ⟨named, found⟩)
    exact ⟨named, found⟩
  · rintro ⟨named, found⟩
    exact .reference named found

theorem expandPiece_reference_eq_error_iff {offset : Nat} {name : List Char} {reason : Reason} :
    table.expandPiece (.reference offset name) = .error reason ↔
      table.Refuses offset name reason := by
  rw [expandPiece]
  constructor
  · intro refused
    split at refused
    · rename_i unnamed
      cases refused
      exact .empty unnamed
    · rename_i named
      split at refused
      · cases refused
      · rename_i unknown
        cases refused
        exact .undefined named (get?_eq_none_iff.mp unknown)
  · rintro (unnamed | ⟨named, unknown⟩)
    · exact if_pos unnamed
    · have missing := get?_eq_none_iff.mpr unknown
      rw [bareName] at missing named
      simp [named, missing, bareName]

/-- Only names that are known have a value. -/
theorem isKnown_iff_exists_expandPiece (offset : Nat) {name : List Char} :
    table.IsKnown name ↔ ∃ value, table.expandPiece (.reference offset name) = .ok value := by
  simp only [isKnown_iff_exists_hasValue, expandPiece_reference_eq_ok_iff]

theorem expandPieces_plain (last : List Char) :
    table.expandPieces [.plain last] = .ok (String.ofList last) := by
  calc table.expandPieces [.plain last]
      = .ok (String.ofList last ++ "") := rfl
    _ = .ok (String.ofList last) := by rw [String.append_empty]

theorem expandPieces_unterminated (last rest : List Char) (offset : Nat) :
    table.expandPieces [.plain last, .unterminated offset rest] =
      .error (.unterminated offset) :=
  rfl

/-- A reference with plain text in front of it expands to this text and its value. -/
theorem expandPieces_reference (plain name : List Char) (offset : Nat) (rest : List Piece) :
    table.expandPieces (.plain plain :: .reference offset name :: rest) =
      (table.expandPiece (.reference offset name)).bind fun value =>
        (table.expandPieces rest).bind fun others =>
          .ok (String.ofList plain ++ (value ++ others)) := by
  rw [expandPieces, expandPieces]
  cases table.expandPiece (.reference offset name) with
  | error reason => rfl
  | ok value => cases table.expandPieces rest <;> rfl

end PropertyTable

namespace Factors

open PropertyTable

variable {table : PropertyTable}

/-- Plain texts, each with the value of the reference after it, and the plain text at the
end. -/
def fill (factors : Factors) (values : List String) : String :=
  String.join (List.zipWith (fun reference value => String.ofList reference.1 ++ value)
    factors.references values) ++ String.ofList factors.last

/-- Why an expression that starts at an offset does not expand: its leftmost reference
without a value, or else its `$(` that is never closed. -/
def FirstOffence (table : PropertyTable) (offset : Nat) (factors : Factors) (reason : Reason) :
    Prop :=
  (∃ earlier plain name later, factors.references = earlier ++ (plain, name) :: later ∧
    (∀ reference ∈ earlier, table.IsKnown reference.2) ∧
    table.Refuses (offset + (referenceText earlier).length + plain.length) name reason) ∨
  (∀ reference ∈ factors.references, table.IsKnown reference.2) ∧ factors.tail?.isSome = true ∧
    reason = .unterminated
      (offset + (referenceText factors.references).length + factors.last.length)

theorem firstOffence_nil_iff {last : List Char} {tail? : Option (List Char)} {offset : Nat}
    {reason : Reason} :
    FirstOffence table offset ⟨[], last, tail?⟩ reason ↔
      tail?.isSome = true ∧ reason = .unterminated (offset + last.length) := by
  simp [FirstOffence, referenceText]

/-- An offence is that of the first reference, or of what follows it. -/
theorem firstOffence_cons_iff {plain name last : List Char}
    {rest : List (List Char × List Char)} {tail? : Option (List Char)} {offset : Nat}
    {reason : Reason} :
    FirstOffence table offset ⟨(plain, name) :: rest, last, tail?⟩ reason ↔
      table.Refuses (offset + plain.length) name reason ∨
        table.IsKnown name ∧
          FirstOffence table (offset + plain.length + name.length + 3) ⟨rest, last, tail?⟩
            reason := by
  have shift : ∀ references : List (List Char × List Char),
      offset + (referenceText ((plain, name) :: references)).length =
        offset + plain.length + name.length + 3 + (referenceText references).length := by
    intro references
    rw [length_referenceText_cons]
    omega
  constructor
  · rintro (⟨_ | ⟨first, earlier⟩, text, missing, later, split, known, refuses⟩ |
      ⟨known, unclosed, same⟩)
    · cases split
      exact .inl refuses
    · obtain rfl : (plain, name) = first := (List.cons.inj split).1
      obtain ⟨knownHere, knownEarlier⟩ := List.forall_mem_cons.mp known
      rw [shift] at refuses
      exact .inr ⟨knownHere,
        .inl ⟨earlier, text, missing, later, List.tail_eq_of_cons_eq split, knownEarlier, refuses⟩⟩
    · obtain ⟨knownHere, knownLater⟩ := List.forall_mem_cons.mp known
      rw [shift] at same
      exact .inr ⟨knownHere, .inr ⟨knownLater, unclosed, same⟩⟩
  · rintro (refuses | ⟨knownHere, ⟨earlier, text, missing, later, split, known, refuses⟩ |
      ⟨known, unclosed, same⟩⟩)
    · exact .inl ⟨[], plain, name, rest, rfl, by simp, refuses⟩
    · rw [← shift] at refuses
      exact .inl ⟨(plain, name) :: earlier, text, missing, later, congrArg _ split,
        List.forall_mem_cons.mpr ⟨knownHere, known⟩, refuses⟩
    · rw [← shift] at same
      exact .inr ⟨List.forall_mem_cons.mpr ⟨knownHere, known⟩, unclosed, same⟩

/-- All names are known exactly if all of them have values. -/
theorem forall_isKnown_iff {references : List (List Char × List Char)} :
    (∀ reference ∈ references, table.IsKnown reference.2) ↔
      ∃ values, List.Forall₂ (fun reference => table.HasValue reference.2) references values := by
  induction references with
  | nil => simp
  | cons reference rest ih =>
    rw [List.forall_mem_cons, ih, isKnown_iff_exists_hasValue]
    constructor
    · rintro ⟨⟨value, has⟩, values, all⟩
      exact ⟨value :: values, .cons has all⟩
    · rintro ⟨_, _ | ⟨has, all⟩⟩
      exact ⟨⟨_, has⟩, _, all⟩

/-- An expression expands exactly to its plain text with values in the places of the
references. -/
theorem expandPieces_piecesOf_eq_ok_iff {factors : Factors} {offset : Nat} {result : String} :
    table.expandPieces (piecesOf factors.last factors.tail? offset factors.references) =
        .ok result ↔
      factors.tail? = none ∧ ∃ values,
        List.Forall₂ (fun reference => table.HasValue reference.2) factors.references values ∧
          result = factors.fill values := by
  obtain ⟨references, last, tail?⟩ := factors
  induction references generalizing offset result with
  | nil =>
    cases tail? with
    | none =>
      simp only [piecesOf, Option.map_none, Option.toList_none, expandPieces_plain,
        Except.ok.injEq, List.forall₂_nil_left_iff, true_and, exists_eq_left]
      simp [fill, eq_comm]
    | some rest => simp [piecesOf, expandPieces_unterminated]
  | cons reference rest ih =>
    obtain ⟨plain, name⟩ := reference
    simp only [piecesOf, expandPieces_reference, exceptBind_eq_ok_iff,
      expandPiece_reference_eq_ok_iff, ih, Except.ok.injEq]
    constructor
    · rintro ⟨value, has, _, ⟨closed, values, all, rfl⟩, rfl⟩
      refine ⟨closed, value :: values, .cons has all, ?_⟩
      simp [fill, String.join_cons, String.append_assoc]
    · rintro ⟨closed, _, (_ | ⟨has, all⟩), rfl⟩
      refine ⟨_, has, _, ⟨closed, _, all, rfl⟩, ?_⟩
      simp [fill, String.join_cons, String.append_assoc]

/-- An expression does not expand exactly over its first offence. -/
theorem expandPieces_piecesOf_eq_error_iff {factors : Factors} {offset : Nat}
    {reason : Reason} :
    table.expandPieces (piecesOf factors.last factors.tail? offset factors.references) =
        .error reason ↔
      factors.FirstOffence table offset reason := by
  obtain ⟨references, last, tail?⟩ := factors
  induction references generalizing offset with
  | nil =>
    rw [firstOffence_nil_iff]
    cases tail? with
    | none => simp [piecesOf, expandPieces_plain]
    | some rest => simp [piecesOf, expandPieces_unterminated, eq_comm]
  | cons reference rest ih =>
    obtain ⟨plain, name⟩ := reference
    rw [firstOffence_cons_iff, ← ih, ← expandPiece_reference_eq_error_iff,
      isKnown_iff_exists_expandPiece (offset + plain.length), piecesOf, expandPieces_reference]
    cases table.expandPiece (.reference (offset + plain.length) name) with
    | error other => simp [Except.bind]
    | ok value =>
      cases table.expandPieces
        (piecesOf last tail? (offset + plain.length + name.length + 3) rest) <;>
        simp [Except.bind]

end Factors

/-- What an expression expands to, and why it may not. There is one way to read a text as
an expression, with no more references than a third of its characters. It expands exactly
if no `$(` is left open in it and each name in it is not blank and known but for its case,
and then to its plain text with the values in the places of the references, as they are.
The value of a name is that of the last entry which spells it. Otherwise the failure holds
the whole expression and the reason of the leftmost reference that has no value, which is
blank, unknown or never closed. -/
theorem expands_by_grammar (table : PropertyTable) (raw : String) :
    (∃! factors : Factors, factors.Factorize raw) ∧
    ∀ factors : Factors, factors.Factorize raw →
      3 * factors.references.length ≤ raw.length ∧
      ((∃ result, table.expand raw = .ok result) ↔
        factors.tail? = none ∧ ∀ reference ∈ factors.references, table.IsKnown reference.2) ∧
      (∀ result, table.expand raw = .ok result ↔
        factors.tail? = none ∧ ∃ values,
          List.Forall₂ (fun reference => table.HasValue reference.2) factors.references values ∧
            result = factors.fill values) ∧
      (∀ reason, table.expand raw = .error reason ↔ factors.FirstOffence table 0 reason) ∧
      ∀ failure, valueOrFailure table.expand raw = .error failure ↔
        ∃ reason, factors.FirstOffence table 0 reason ∧ failure = .expansion raw reason.text := by
  refine ⟨Factors.existsUnique_factorize raw, ?_⟩
  rintro factors ⟨source, lawful⟩
  have parts : table.expand raw =
      table.expandPieces (Factors.piecesOf factors.last factors.tail? 0 factors.references) := by
    rw [PropertyTable.expand, ← source, Factors.pieces_source lawful]
  have succeeds : ∀ result, table.expand raw = .ok result ↔ _ := fun result =>
    parts ▸ Factors.expandPieces_piecesOf_eq_ok_iff
  have fails : ∀ reason, table.expand raw = .error reason ↔ _ := fun reason =>
    parts ▸ Factors.expandPieces_piecesOf_eq_error_iff
  refine ⟨?_, ?_, succeeds, fails, ?_⟩
  · have bound := factors.three_mul_length_le
    rwa [source, String.length_toList] at bound
  · simp only [succeeds, Factors.forall_isKnown_iff]
    constructor
    · rintro ⟨_, closed, values, all, _⟩
      exact ⟨closed, values, all⟩
    · rintro ⟨closed, values, all⟩
      exact ⟨_, closed, values, all, rfl⟩
  · intro failure
    simp only [← fails, valueOrFailure]
    cases table.expand raw with
    | ok value => simp
    | error reason => simp [eq_comm]

/-- A name that is spelled twice, with a value that looks like a reference. -/
def spelledTwice : PropertyTable :=
  ⟨[("Configuration", "Debug"), ("CONFIGURATION", "$(Other)")]⟩

/-- The last spelling of a name counts, its value is not looked into, and a reference is
named without the blanks in it. -/
theorem spelledTwice_expands_by_grammar :
    (Factors.mk [("a$".toList, " configuration ".toList)] ")".toList none).Factorize
        "a$$( configuration ))" ∧
      spelledTwice.expand "a$$( configuration ))" = .ok "a$$(Other))" := by
  have read : (Factors.mk [("a$".toList, " configuration ".toList)] ")".toList none).Factorize
      "a$$( configuration ))" :=
    ⟨by decide, by decide, by decide, by decide, by simp⟩
  have value : spelledTwice.HasValue " configuration ".toList "$(Other)" :=
    ⟨by decide, [("Configuration", "Debug")], "CONFIGURATION", [], rfl, by decide +kernel,
      by simp⟩
  refine ⟨read, ?_⟩
  obtain ⟨_, _, expands, _⟩ :=
    (expands_by_grammar spelledTwice "a$$( configuration ))").2 _ read
  exact (expands _).mpr ⟨rfl, _, .cons value .nil, by decide⟩

end RunOnce.Expansion
