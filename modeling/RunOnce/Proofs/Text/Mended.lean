import RunOnce.Proofs.Text.Comment

/-!
# What a comment keeps of its text

A terminator in a comment is written with a backslash in it, and a text that already has
the backslash is written just the same. So a comment does not tell these two apart, and
that is all it does not tell: putting every broken terminator together again gives the
text itself, unless one was in it before it was written.
-/

namespace RunOnce.Text.Comment

/-- A terminator that is broken up. -/
def brokenTerminator : List Char := ['*', '\\', '/']

/-- Put every broken terminator together again, from left to right. -/
def mend : List Char → List Char
  | [] => []
  | '*' :: '\\' :: '/' :: rest => '*' :: '/' :: mend rest
  | c :: rest => c :: mend rest

/-- The text of a comment, with its terminators put together. -/
def decode (comment : String) : String :=
  String.ofList (mend (comment.toList.drop 2).dropLast.dropLast)

/-! ## Mending character by character -/

theorem brokenTerminator_prefix_cons_iff {c : Char} {rest : List Char} :
    brokenTerminator <+: c :: rest ↔ c = '*' ∧ ∃ tail, rest = '\\' :: '/' :: tail := by
  constructor
  · rintro ⟨tail, same⟩
    obtain ⟨star, next⟩ := List.cons.inj same
    exact ⟨star.symm, tail, next.symm⟩
  · rintro ⟨rfl, tail, rfl⟩
    exact ⟨tail, rfl⟩

/-- A character that begins no broken terminator is kept. -/
theorem mend_cons {c : Char} {rest : List Char} (whole : ¬ brokenTerminator <+: c :: rest) :
    mend (c :: rest) = c :: mend rest := by
  rw [mend]
  rintro tail rfl rfl
  exact whole ⟨tail, rfl⟩

theorem mend_cons_of_ne {c : Char} (plain : c ≠ '*') (rest : List Char) :
    mend (c :: rest) = c :: mend rest :=
  mend_cons fun begins => plain (List.cons_prefix_cons.mp begins).1.symm

/-- What a text begins with does not reach over a character that is not in it. -/
theorem prefix_append_cons_iff {start : List Char} {c : Char} (apart : c ∉ start)
    (front back : List Char) : start <+: front ++ c :: back ↔ start <+: front := by
  refine ⟨fun begins => ?_, fun begins => begins.trans (List.prefix_append _ _)⟩
  have onto : front ++ [c] <+: front ++ c :: back := ⟨back, by simp⟩
  rcases List.prefix_or_prefix_of_prefix begins onto with within | beyond
  · rcases List.prefix_concat_iff.mp within with whole | within
    · exact absurd (whole ▸ List.mem_concat_self) apart
    · exact within
  · exact absurd (beyond.subset List.mem_concat_self) apart

/-- Two texts are mended apart if a character that is part of no broken terminator stands
between them. -/
theorem mend_append_cons {c : Char} (apart : c ∉ brokenTerminator) (front back : List Char) :
    mend (front ++ c :: back) = mend front ++ c :: mend back := by
  have plain : c ≠ '*' := by
    rintro rfl
    exact apart List.mem_cons_self
  fun_induction mend front with
  | case1 => exact mend_cons_of_ne plain back
  | case2 rest ih =>
    rw [List.cons_append, List.cons_append, List.cons_append, mend, ih]
    rfl
  | case3 d rest unbroken ih =>
    have whole : ¬ brokenTerminator <+: d :: rest := by
      rw [brokenTerminator_prefix_cons_iff]
      rintro ⟨star, tail, same⟩
      exact unbroken tail star same
    rw [List.cons_append, mend_cons, ih, List.cons_append]
    rwa [← List.cons_append, prefix_append_cons_iff apart]

/-- A text is mended as it is exactly if there is no broken terminator in it. -/
theorem mend_eq_self_iff {cs : List Char} : mend cs = cs ↔ ¬ brokenTerminator <:+: cs := by
  fun_induction mend cs with
  | case1 => simp [brokenTerminator]
  | case2 rest ih =>
    refine iff_of_false (by simp) (not_not_intro ?_)
    exact List.IsPrefix.isInfix ⟨rest, rfl⟩
  | case3 c rest unbroken ih =>
    have whole : ¬ brokenTerminator <+: c :: rest := by
      rw [brokenTerminator_prefix_cons_iff]
      rintro ⟨star, tail, same⟩
      exact unbroken tail star same
    rw [List.cons_inj_right, ih, List.infix_cons_iff, or_iff_right whole]

/-! ## Mending and breaking up -/

theorem terminator_prefix_cons_iff {c : Char} {rest : List Char} :
    terminator <+: c :: rest ↔ c = '*' ∧ rest.head? = some '/' := by
  rw [terminator, List.cons_prefix_cons, eq_comm]
  cases rest <;> simp [eq_comm]

/-- A character that begins no terminator is kept in writing. -/
theorem escape_cons {c : Char} {rest : List Char} (whole : ¬ terminator <+: c :: rest) :
    escape (c :: rest) = c :: escape rest := by
  rw [escape]
  rintro tail rfl rfl
  exact whole ⟨tail, rfl⟩

/-- A backslash and a slash stand at the front of what is written only if they stand at the
front of the text. -/
theorem exists_of_escape_eq {cs tail : List Char} (same : escape cs = '\\' :: '/' :: tail) :
    ∃ rest, cs = '\\' :: '/' :: rest := by
  obtain ⟨rest, rfl⟩ : ∃ rest, cs = '\\' :: rest := by
    rw [← List.head?_eq_some_iff, ← head?_escape, same, List.head?_cons]
  rw [escape_cons (by simp [terminator]), List.cons_inj_right] at same
  obtain ⟨rest, rfl⟩ : ∃ others, rest = '/' :: others := by
    rw [← List.head?_eq_some_iff, ← head?_escape, same, List.head?_cons]
  exact ⟨rest, rfl⟩

/-- What is broken up in writing is put together in mending. -/
theorem mend_escape (cs : List Char) : mend (escape cs) = mend cs := by
  fun_induction escape cs with
  | case1 => rfl
  | case2 rest ih =>
    rw [mend, ih, mend_cons, mend_cons_of_ne (by decide)]
    simp [brokenTerminator]
  | case3 c rest unbroken ih =>
    by_cases begins : brokenTerminator <+: c :: rest
    · -- The backslash and the slash of the text are kept, and mended together with the star.
      obtain ⟨rfl, tail, rfl⟩ := brokenTerminator_prefix_cons_iff.mp begins
      rw [escape_cons (by simp [terminator]), escape_cons (by simp [terminator])] at ih ⊢
      rw [mend, mend]
      simpa [mend_cons_of_ne] using ih
    · rw [mend_cons begins, mend_cons, ih]
      rw [brokenTerminator_prefix_cons_iff] at begins ⊢
      rintro ⟨star, tail, same⟩
      exact begins ⟨star, exists_of_escape_eq same⟩

/-- Mending leaves the first character alone. -/
theorem head?_mend (cs : List Char) : (mend cs).head? = cs.head? := by
  fun_cases mend cs <;> rfl

/-- What is put together in mending is broken up in writing. -/
theorem escape_mend (cs : List Char) : escape (mend cs) = escape cs := by
  fun_induction mend cs with
  | case1 => rfl
  | case2 rest ih =>
    rw [escape, ih, escape_cons, escape_cons, escape_cons]
    all_goals simp [terminator]
  | case3 c rest unbroken ih =>
    by_cases ends : terminator <+: c :: rest
    · obtain ⟨rfl, slash⟩ := terminator_prefix_cons_iff.mp ends
      obtain ⟨tail, rfl⟩ := List.head?_eq_some_iff.mp slash
      rw [mend_cons_of_ne (by decide), escape_cons (by simp [terminator]),
        escape_cons (by simp [terminator]), List.cons_inj_right] at ih
      rw [mend_cons_of_ne (by decide), escape, escape, ih]
    · rw [escape_cons ends, escape_cons, ih]
      rwa [terminator_prefix_cons_iff, head?_mend, ← terminator_prefix_cons_iff]

/-- Texts are written alike exactly if they are mended alike. -/
theorem escape_eq_escape_iff {first second : List Char} :
    escape first = escape second ↔ mend first = mend second := by
  constructor
  · intro same
    rw [← mend_escape first, same, mend_escape]
  · intro same
    rw [← escape_mend first, same, escape_mend]

/-- What is read from a comment is its text, mended. -/
theorem decode_encode (text : String) :
    decode (encode text) = String.ofList (mend text.toList) := by
  have inside : (encodeChars text.toList).drop 2 = escape text.toList ++ ['*'] ++ ['/'] := by
    simp [encodeChars]
  rw [decode, encode, String.toList_ofList, inside, List.dropLast_concat, List.dropLast_concat,
    mend_escape]

theorem encode_eq_encode_iff {first second : String} :
    encode first = encode second ↔ mend first.toList = mend second.toList := by
  rw [← escape_eq_escape_iff, encode, encode, String.ofList_inj]
  simp [encodeChars]

end RunOnce.Text.Comment
