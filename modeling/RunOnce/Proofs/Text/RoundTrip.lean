import Mathlib.Algebra.Ring.Parity
import RunOnce.Text.Literal

/-!
# Reading literals back

Every value can be read back from its literal. A reader accepts more than what is ever
written: anything between quotes. Among the texts that it accepts, the literals of values
are those with the delimiter that their body needs and with backslashes in pairs only.
-/

namespace RunOnce.Text.Literal

/-! ## Backslashes in pairs -/

/-- Whether every run of backslashes, as long as it goes on to both sides, has an even
length. -/
def BackslashesPaired (text : List Char) : Prop :=
  ∀ before count after, text = before ++ (List.replicate count '\\' ++ after) →
    before.getLast? ≠ some '\\' → after.head? ≠ some '\\' → Even count

theorem backslashesPaired_nil : BackslashesPaired [] := by
  intro before count after same _ _
  have lengths := congrArg List.length same
  simp only [List.length_nil, List.length_append, List.length_replicate] at lengths
  have none : count = 0 := by omega
  exact none ▸ Even.zero

/-- What ends a longer text ends the shorter one too. -/
theorem getLast?_ne_of_cons {c d : Char} {text : List Char}
    (other : (d :: text).getLast? ≠ some c) : text.getLast? ≠ some c := by
  intro last
  apply other
  rw [List.getLast?_cons, last, Option.getD_some]

/-- Another character in front is no part of any run. -/
theorem backslashesPaired_cons_iff {c : Char} {text : List Char} (plain : c ≠ '\\') :
    BackslashesPaired (c :: text) ↔ BackslashesPaired text := by
  constructor
  · intro paired before count after same left right
    refine paired (c :: before) count after (congrArg (c :: ·) same) ?_ right
    cases before with
    | nil => simpa using plain
    | cons d before => rwa [List.getLast?_cons_cons]
  · intro paired before count after same left right
    cases before with
    | cons d before =>
      exact paired before count after (List.cons.inj same).2 (getLast?_ne_of_cons left) right
    | nil =>
      cases count with
      | zero => exact Even.zero
      | succ count => exact absurd (List.cons.inj same).1 plain

/-- A pair in front makes a run longer by two. -/
theorem backslashesPaired_pair_iff {text : List Char} :
    BackslashesPaired ('\\' :: '\\' :: text) ↔ BackslashesPaired text := by
  constructor
  · intro paired before count after same left right
    cases before with
    | nil =>
      -- The run at the start of the text goes on into the pair.
      have longer := paired [] (count + 2) after (by simp [same, List.replicate_succ]) (by simp)
        right
      exact (Nat.even_add.mp longer).mpr even_two
    | cons d before =>
      refine paired ('\\' :: '\\' :: d :: before) count after ?_ ?_ right
      · rw [same]
        rfl
      · rwa [List.getLast?_cons_cons, List.getLast?_cons_cons]
  · intro paired before count after same left right
    match before, count, same with
    | [], 0, _ => exact Even.zero
    | [], 1, same =>
      have next : after = '\\' :: text := (List.cons.inj same).2.symm
      exact absurd (congrArg List.head? next) right
    | [], count + 2, same =>
      have rest := (List.cons.inj (List.cons.inj same).2).2
      exact (paired [] count after rest (by simp) right).add even_two
    | [d], _, same =>
      rw [← (List.cons.inj same).1] at left
      exact absurd rfl left
    | d :: e :: before, count, same =>
      have rest := (List.cons.inj (List.cons.inj same).2).2
      exact paired before count after rest (getLast?_ne_of_cons (getLast?_ne_of_cons left)) right

/-- A backslash on its own is a run of odd length. -/
theorem not_backslashesPaired_cons {text : List Char} (alone : text.head? ≠ some '\\') :
    ¬ BackslashesPaired ('\\' :: text) := by
  intro paired
  exact Nat.not_even_one (paired [] 1 text rfl (by simp) alone)

/-! ## Doubling backslashes and reading pairs -/

theorem escape_backslash (text : List Char) :
    escape ('\\' :: text) = '\\' :: '\\' :: escape text := by
  rw [escape, if_pos rfl]

theorem escape_cons {c : Char} (plain : c ≠ '\\') (text : List Char) :
    escape (c :: text) = c :: escape text := by
  rw [escape, if_neg plain]

theorem unescape_cons {c : Char} (plain : c ≠ '\\') (text : List Char) :
    unescape (c :: text) = c :: unescape text := by
  rw [unescape]
  intro rest backslash
  exact absurd backslash plain

@[simp]
theorem unescape_escape (text : List Char) : unescape (escape text) = text := by
  induction text with
  | nil => rfl
  | cons c text ih =>
    by_cases backslash : c = '\\'
    · rw [backslash, escape_backslash, unescape, ih]
    · rw [escape_cons backslash, unescape_cons backslash, ih]

/-- Doubling gives a text back exactly if its backslashes were pairs. -/
theorem escape_unescape_eq_self_iff (text : List Char) :
    escape (unescape text) = text ↔ BackslashesPaired text := by
  fun_induction unescape text with
  | case1 => exact iff_of_true rfl backslashesPaired_nil
  | case2 text ih =>
    rw [escape_backslash, backslashesPaired_pair_iff, ← ih]
    simp
  | case3 c text unpaired ih =>
    by_cases backslash : c = '\\'
    · -- The backslash stands alone, so what is written has one more than the text.
      subst backslash
      have alone : text.head? ≠ some '\\' := by
        intro first
        obtain ⟨rest, rfl⟩ := List.head?_eq_some_iff.mp first
        exact unpaired rest rfl rfl
      refine iff_of_false ?_ (not_backslashesPaired_cons alone)
      intro same
      rw [escape_backslash] at same
      rw [← (List.cons.inj same).2] at alone
      exact alone rfl
    · rw [escape_cons backslash, backslashesPaired_cons_iff backslash, ← ih]
      simp

/-! ## Line breaks -/

theorem hasLineBreak_append (first second : List Char) :
    hasLineBreak (first ++ second) = (hasLineBreak first || hasLineBreak second) :=
  List.any_append

theorem hasLineBreak_eq_true_iff {text : List Char} :
    hasLineBreak text = true ↔ '\n' ∈ text ∨ '\r' ∈ text := by
  simp only [hasLineBreak, isLineBreak, List.any_eq_true, Bool.or_eq_true, beq_iff_eq]
  constructor
  · rintro ⟨c, listed, rfl | rfl⟩
    · exact .inl listed
    · exact .inr listed
  · rintro (listed | listed)
    · exact ⟨_, listed, .inl rfl⟩
    · exact ⟨_, listed, .inr rfl⟩

/-- Reading pairs neither brings line breaks in nor takes them away. -/
@[simp]
theorem hasLineBreak_unescape (text : List Char) :
    hasLineBreak (unescape text) = hasLineBreak text := by
  fun_induction unescape text with
  | case1 => rfl
  | case2 text ih => simpa [hasLineBreak, isLineBreak] using ih
  | case3 c text _ ih => simpa [hasLineBreak] using congrArg (isLineBreak c || ·) ih

@[simp]
theorem hasLineBreak_escape (text : List Char) :
    hasLineBreak (escape text) = hasLineBreak text := by
  rw [← hasLineBreak_unescape (escape text), unescape_escape]

/-- Delimiters hold no line breaks. -/
theorem hasLineBreak_delimited (value body : List Char) :
    hasLineBreak (delimiterFor value ++ body ++ delimiterFor value) = hasLineBreak body := by
  have none : hasLineBreak (delimiterFor value) = false := by
    unfold delimiterFor
    split <;> rfl
  rw [hasLineBreak_append, hasLineBreak_append, none, Bool.false_or, Bool.or_false]

/-- The delimiter of a value depends on its line breaks only. -/
theorem delimiterFor_congr {first second : List Char}
    (alike : hasLineBreak first = hasLineBreak second) :
    delimiterFor first = delimiterFor second := by
  rw [delimiterFor, delimiterFor, alike]

/-! ## Bodies of literals -/

theorem between?_eq_some_iff {delimiter literal body : List Char} :
    between? delimiter literal = some body ↔ literal = delimiter ++ body ++ delimiter := by
  unfold between?
  constructor
  · intro found
    split at found
    · rename_i delimited
      simp only [Bool.and_eq_true, decide_eq_true_eq, List.isPrefixOf_iff_prefix,
        List.isSuffixOf_iff_suffix] at delimited
      obtain ⟨⟨long, rest, rfl⟩, closed⟩ := delimited
      -- What follows the opening delimiter is long enough to hold the closing one.
      have inRest : delimiter <:+ rest := by
        refine List.suffix_of_suffix_length_le closed (List.suffix_append _ _) ?_
        rw [List.length_append] at long
        omega
      obtain ⟨inner, rfl⟩ := inRest
      simp only [List.drop_left, List.length_append, Option.some.injEq] at found
      rw [show delimiter.length + (inner.length + delimiter.length) - 2 * delimiter.length =
        inner.length by omega, List.take_left] at found
      rw [found, List.append_assoc]
    · cases found
  · rintro rfl
    have delimited : (decide (2 * delimiter.length ≤ (delimiter ++ body ++ delimiter).length) &&
        delimiter.isPrefixOf (delimiter ++ body ++ delimiter) &&
        delimiter.isSuffixOf (delimiter ++ body ++ delimiter)) = true := by
      simp only [Bool.and_eq_true, decide_eq_true_eq, List.isPrefixOf_iff_prefix,
        List.isSuffixOf_iff_suffix]
      refine ⟨⟨?_, ?_⟩, List.suffix_append _ _⟩
      · simp only [List.length_append]
        omega
      · rw [List.append_assoc]
        exact List.prefix_append _ _
    rw [if_pos delimited, List.append_assoc, List.drop_left]
    simp only [List.length_append]
    rw [show delimiter.length + (body.length + delimiter.length) - 2 * delimiter.length =
      body.length by omega, List.take_left]

/-- Between the delimiters that a body needs, this body is read. -/
theorem body?_delimited (body : List Char) :
    body? (delimiterFor body ++ body ++ delimiterFor body) = some body := by
  unfold body?
  cases spans : hasLineBreak body with
  | true =>
    have block : delimiterFor body = blockDelimiter := by rw [delimiterFor, spans, if_pos rfl]
    rw [block, between?_eq_some_iff.mpr rfl, Option.filter_some, if_pos spans]
  | false =>
    have line : delimiterFor body = lineDelimiter := by
      rw [delimiterFor, spans, if_neg Bool.false_ne_true]
    -- Without a line break the literal cannot be taken for a block literal.
    have noBlock : (between? blockDelimiter
        (delimiterFor body ++ body ++ delimiterFor body)).filter hasLineBreak = none := by
      rw [Option.filter_eq_none_iff]
      intro inner found spansInside
      have whole := hasLineBreak_delimited body body
      rw [between?_eq_some_iff.mp found, hasLineBreak_append, hasLineBreak_append, spansInside,
        spans] at whole
      simp at whole
    rw [noBlock, line]
    exact between?_eq_some_iff.mpr rfl

/-- A literal has a body exactly if there is a quote at either end. -/
theorem body?_eq_none_iff {literal : List Char} :
    body? literal = none ↔ ∀ body, literal ≠ lineDelimiter ++ body ++ lineDelimiter := by
  unfold body?
  constructor
  · intro none body same
    split at none
    · cases none
    · rw [between?_eq_some_iff.mpr same] at none
      cases none
  · intro undelimited
    have noBlock : between? blockDelimiter literal = none := by
      rw [Option.eq_none_iff_forall_ne_some]
      intro inner found
      apply undelimited ('"' :: '"' :: inner ++ ['"', '"'])
      rw [between?_eq_some_iff.mp found]
      simp [blockDelimiter, lineDelimiter]
    rw [noBlock]
    rw [Option.filter_none, Option.eq_none_iff_forall_ne_some]
    intro body found
    exact undelimited body (between?_eq_some_iff.mp found)

/-- To be between quotes is to start and to end with one, and not with the same one. -/
theorem exists_between_quotes_iff {literal : List Char} :
    (∃ body, literal = lineDelimiter ++ body ++ lineDelimiter) ↔
      2 ≤ literal.length ∧ literal.head? = some '"' ∧ literal.getLast? = some '"' := by
  constructor
  · rintro ⟨body, rfl⟩
    exact ⟨by simp [lineDelimiter], rfl, List.getLast?_concat⟩
  · rintro ⟨long, opened, closed⟩
    obtain ⟨rest, rfl⟩ := List.head?_eq_some_iff.mp opened
    obtain ⟨c, rest, rfl⟩ := List.exists_cons_of_length_pos (l := rest) (by
      rw [List.length_cons] at long
      omega)
    rw [List.getLast?_cons_cons] at closed
    obtain ⟨body, same⟩ := List.getLast?_eq_some_iff.mp closed
    exact ⟨body, by rw [same]; rfl⟩

/-! ## Values and literals -/

@[simp]
theorem decodeChars_encodeChars (value : List Char) :
    decodeChars (encodeChars value) = some value := by
  have body := body?_delimited (escape value)
  rw [delimiterFor_congr (hasLineBreak_escape value)] at body
  rw [decodeChars, encodeChars, body, Option.map_some, unescape_escape]

theorem decode_encode (value : String) : decode (encode value) = some value := by
  rw [decode, encode, String.toList_ofList, decodeChars_encodeChars, Option.map_some,
    String.ofList_toList]

theorem encode_inj {first second : String} : encode first = encode second ↔ first = second := by
  refine ⟨fun same => ?_, congrArg encode⟩
  have values := congrArg decode same
  rwa [decode_encode, decode_encode, Option.some.injEq] at values

/-- A literal ends with a quote. -/
theorem getLast?_toList_encode (value : String) : (encode value).toList.getLast? = some '"' := by
  rw [encode, String.toList_ofList, encodeChars, List.getLast?_append]
  unfold delimiterFor
  split <;> rfl

theorem decodeChars_eq_none_iff {literal : List Char} :
    decodeChars literal = none ↔
      literal.length < 2 ∨ ¬ (literal.head? = some '"' ∧ literal.getLast? = some '"') := by
  rw [decodeChars, Option.map_eq_none_iff, body?_eq_none_iff, ← not_exists,
    exists_between_quotes_iff, not_and_or, Nat.not_le]

/-- A literal is written for the value that is read from it exactly if it has the
delimiters that its body needs, and backslashes in pairs only. -/
theorem map_encodeChars_decodeChars_eq_some_iff {literal : List Char} :
    (decodeChars literal).map encodeChars = some literal ↔
      ∃ body, literal = delimiterFor body ++ body ++ delimiterFor body ∧
        BackslashesPaired body := by
  constructor
  · intro again
    obtain ⟨value, _, rfl⟩ := Option.map_eq_some_iff.mp again
    refine ⟨escape value, ?_, ?_⟩
    · rw [delimiterFor_congr (hasLineBreak_escape value), encodeChars]
    · rw [← escape_unescape_eq_self_iff, unescape_escape]
  · rintro ⟨body, rfl, paired⟩
    rw [decodeChars, body?_delimited, Option.map_some, Option.map_some, encodeChars,
      (escape_unescape_eq_self_iff body).mpr paired,
      delimiterFor_congr (hasLineBreak_unescape body)]

/-- Between the delimiters that a body needs: single quotes around one within its line,
triple quotes around one that spans lines. -/
theorem eq_delimited_iff {literal body : List Char} :
    literal = delimiterFor body ++ body ++ delimiterFor body ↔
      literal = ['"'] ++ body ++ ['"'] ∧ '\n' ∉ body ∧ '\r' ∉ body ∨
        literal = ['"', '"', '"'] ++ body ++ ['"', '"', '"'] ∧ ('\n' ∈ body ∨ '\r' ∈ body) := by
  rw [← not_or, ← hasLineBreak_eq_true_iff]
  cases spans : hasLineBreak body <;>
    simp [delimiterFor, spans, lineDelimiter, blockDelimiter]

/-- Values and literals. Every value is read back from its literal, so different values
have different literals. A text is refused exactly if it is too short for two quotes, or
there is no quote at one of its ends. And a text is the literal of the value that is read
from it exactly if its body stands between single quotes and within its line, or between
triple quotes and spans lines, and all backslashes in it come in runs of even length. -/
theorem literals_read_back :
    (∀ value : String, decode (encode value) = some value) ∧
    Function.Injective encode ∧
    (∀ literal : String, decode literal = none ↔
      literal.length < 2 ∨
        ¬ (literal.toList.head? = some '"' ∧ literal.toList.getLast? = some '"')) ∧
    ∀ literal : String, (decode literal).map encode = some literal ↔
      ∃ body, BackslashesPaired body ∧
        (literal.toList = ['"'] ++ body ++ ['"'] ∧ '\n' ∉ body ∧ '\r' ∉ body ∨
          literal.toList = ['"', '"', '"'] ++ body ++ ['"', '"', '"'] ∧
            ('\n' ∈ body ∨ '\r' ∈ body)) := by
  have readBack : ∀ value : String, decode (encode value) = some value := by
    intro value
    rw [decode, encode, String.toList_ofList, decodeChars_encodeChars, Option.map_some,
      String.ofList_toList]
  refine ⟨readBack, ?_, ?_, ?_⟩
  · intro first second same
    have values := congrArg decode same
    rw [readBack, readBack] at values
    exact Option.some.inj values
  · intro literal
    rw [decode, Option.map_eq_none_iff, decodeChars_eq_none_iff, String.length_toList]
  · intro literal
    have onChars : (decode literal).map encode = some literal ↔
        (decodeChars literal.toList).map encodeChars = some literal.toList := by
      rw [decode, Option.map_map]
      cases decodeChars literal.toList with
      | none => simp
      | some value => simp [encode, String.ext_iff]
    rw [onChars, map_encodeChars_decodeChars_eq_some_iff]
    refine exists_congr fun body => ?_
    rw [eq_delimited_iff, and_comm]

/-- A lone backslash is read as itself, and so is the pair that is written for it. -/
example : decode "\"\\\"" = some "\\" ∧ encode "\\" = "\"\\\\\"" := by decide

end RunOnce.Text.Literal
