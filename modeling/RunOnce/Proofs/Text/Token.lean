import Mathlib.Data.List.Infix
import RunOnce.Text.Literal

/-!
# Where a literal ends

A literal is read as a token: from its opening delimiter, a backslash takes the
next character along, and the first delimiter outside such a pair ends the token.
Backslashes of a value are doubled and quotes are not, so a token ends at the
first delimiter in the value, if there is one, and not at the end of the literal.
-/

namespace RunOnce.Text.Literal

/-! ## Reading a token -/

/-- Split a text at the first delimiter that no backslash takes along; `none` if
there is none. -/
def readUpTo (delimiter : List Char) : List Char → Option (List Char × List Char)
  | [] => none
  | '\\' :: taken :: rest =>
    (readUpTo delimiter rest).map fun (inside, outside) => ('\\' :: taken :: inside, outside)
  | c :: rest =>
    if delimiter.isPrefixOf (c :: rest) then some ([], (c :: rest).drop delimiter.length)
    else (readUpTo delimiter rest).map fun (inside, outside) => (c :: inside, outside)

/-- Split off the token at the start of a text, with both of its delimiters; `none`
if the text does not open with the delimiter or nothing closes the token. -/
def readToken (delimiter text : List Char) : Option (List Char × List Char) :=
  if delimiter.isPrefixOf text then
    (readUpTo delimiter (text.drop delimiter.length)).map fun (inside, outside) =>
      (delimiter ++ inside ++ delimiter, outside)
  else none

theorem readUpTo_pair (delimiter : List Char) (taken : Char) (rest : List Char) :
    readUpTo delimiter ('\\' :: taken :: rest) =
      (readUpTo delimiter rest).map fun (inside, outside) =>
        ('\\' :: taken :: inside, outside) := by
  rw [readUpTo]

theorem readUpTo_delimiter {delimiter : List Char} {c : Char} {rest : List Char}
    (plain : c ≠ '\\') (here : delimiter <+: c :: rest) :
    readUpTo delimiter (c :: rest) = some ([], (c :: rest).drop delimiter.length) := by
  rw [readUpTo.eq_3 _ _ _ (fun _ _ backslash => absurd backslash plain),
    if_pos (List.isPrefixOf_iff_prefix.mpr here)]

theorem readUpTo_cons {delimiter : List Char} {c : Char} {rest : List Char}
    (plain : c ≠ '\\') (elsewhere : ¬ delimiter <+: c :: rest) :
    readUpTo delimiter (c :: rest) =
      (readUpTo delimiter rest).map fun (inside, outside) => (c :: inside, outside) := by
  rw [readUpTo.eq_3 _ _ _ (fun _ _ backslash => absurd backslash plain),
    if_neg (fun here => elsewhere (List.isPrefixOf_iff_prefix.mp here))]

theorem readToken_delimiter_append (delimiter text : List Char) :
    readToken delimiter (delimiter ++ text) =
      (readUpTo delimiter text).map fun (inside, outside) =>
        (delimiter ++ inside ++ delimiter, outside) := by
  rw [readToken, if_pos (List.isPrefixOf_iff_prefix.mpr (List.prefix_append _ _)),
    List.drop_left]

/-! ## Escaped text -/

theorem escape_append (first second : List Char) :
    escape (first ++ second) = escape first ++ escape second := by
  induction first with
  | nil => rfl
  | cons c rest ih =>
    rw [List.cons_append, escape, escape, ih]
    split <;> rfl

theorem escape_of_not_mem {text : List Char} (plain : '\\' ∉ text) : escape text = text := by
  induction text with
  | nil => rfl
  | cons c rest ih =>
    rw [List.mem_cons, not_or] at plain
    rw [escape, if_neg (Ne.symm plain.1), ih plain.2]

theorem escape_eq_nil_iff {text : List Char} : escape text = [] ↔ text = [] := by
  cases text with
  | nil => simp [escape]
  | cons c rest =>
    rw [escape]
    split <;> simp

/-! ## The first delimiter -/

/-- Whether a delimiter after the text is the first one: it occurs in the two
together only at the end. -/
def OnlyAtEnd (delimiter text : List Char) : Prop :=
  ∀ before after, text ++ delimiter = before ++ (delimiter ++ after) → after = []

theorem onlyAtEnd_nil (delimiter : List Char) : OnlyAtEnd delimiter [] := by
  intro before after same
  have lengths := congrArg List.length same
  simp only [List.length_append, List.length_nil] at lengths
  exact List.eq_nil_of_length_eq_zero (by omega)

/-- In a longer text the delimiter may in addition stand at the start. -/
theorem onlyAtEnd_cons_iff {delimiter : List Char} {c : Char} {text : List Char} :
    OnlyAtEnd delimiter (c :: text) ↔
      ¬ delimiter <+: c :: (text ++ delimiter) ∧ OnlyAtEnd delimiter text := by
  constructor
  · intro onlyAtEnd
    constructor
    · rintro ⟨after, same⟩
      have lengths := congrArg List.length same
      rw [onlyAtEnd [] after same.symm] at lengths
      simp only [List.length_append, List.length_cons, List.length_nil] at lengths
      omega
    · intro before after same
      exact onlyAtEnd (c :: before) after (congrArg (c :: ·) same)
  · rintro ⟨elsewhere, onlyAtEnd⟩ before after same
    cases before with
    | nil => exact absurd ⟨after, same.symm⟩ elsewhere
    | cons b before => exact onlyAtEnd before after (List.cons.inj same).2

/-- A text that ends with a delimiter has a first one. -/
theorem exists_first (delimiter text : List Char) :
    ∃ inside outside, text ++ delimiter = inside ++ (delimiter ++ outside) ∧
      OnlyAtEnd delimiter inside := by
  induction text with
  | nil => exact ⟨[], [], by simp, onlyAtEnd_nil delimiter⟩
  | cons c rest ih =>
    by_cases here : delimiter <+: c :: (rest ++ delimiter)
    · obtain ⟨outside, same⟩ := here
      exact ⟨[], outside, same.symm, onlyAtEnd_nil delimiter⟩
    · obtain ⟨inside, outside, same, onlyAtEnd⟩ := ih
      refine ⟨c :: inside, outside, congrArg (c :: ·) same, ?_⟩
      refine onlyAtEnd_cons_iff.mpr ⟨?_, onlyAtEnd⟩
      intro first
      apply here
      rw [same, ← List.append_assoc]
      exact first.trans (List.prefix_append _ outside)

/-! ## Runs of quotes -/

/-- A delimiter: one quote or more. -/
def quotes (more : Nat) : List Char :=
  List.replicate (more + 1) '"'

/-- Both delimiters are runs of quotes. -/
theorem delimiterFor_eq_quotes (value : List Char) :
    delimiterFor value = quotes (if hasLineBreak value then 2 else 0) := by
  rw [delimiterFor]
  split <;> rfl

/-- A delimiter has nothing to escape. -/
theorem escape_delimiterFor (value : List Char) :
    escape (delimiterFor value) = delimiterFor value := by
  rw [delimiterFor_eq_quotes]
  apply escape_of_not_mem
  simp [quotes, List.mem_replicate]

/-- Escaping brings no quotes together: those at the start of an escaped text
stand at the start of the text. -/
theorem quotes_prefix_of_escape {count total : Nat} (bounded : count ≤ total)
    (text rest : List Char)
    (here : List.replicate count '"' <+: escape text ++ (List.replicate total '"' ++ rest)) :
    List.replicate count '"' <+: text ++ List.replicate total '"' := by
  induction text generalizing count with
  | nil =>
    refine ⟨List.replicate (total - count) '"', ?_⟩
    rw [← List.replicate_add, Nat.add_sub_cancel' bounded, List.nil_append]
  | cons c text ih =>
    cases count with
    | zero => exact List.nil_prefix
    | succ count =>
      rw [List.replicate_succ] at here ⊢
      rw [escape] at here
      split at here
      · simp at here
      · obtain ⟨same, later⟩ := List.cons_prefix_cons.mp here
        exact List.cons_prefix_cons.mpr ⟨same, ih (by omega) later⟩

/-- Reading an escaped text, and a delimiter after it that is the first one, ends
at this delimiter. -/
theorem readUpTo_escape {more : Nat} {inside : List Char}
    (onlyAtEnd : OnlyAtEnd (quotes more) inside) (rest : List Char) :
    readUpTo (quotes more) (escape inside ++ (quotes more ++ rest)) =
      some (escape inside, rest) := by
  induction inside with
  | nil =>
    have here : quotes more <+: '"' :: (List.replicate more '"' ++ rest) :=
      List.prefix_append (quotes more) rest
    calc readUpTo (quotes more) (escape [] ++ (quotes more ++ rest))
        = some ([], (quotes more ++ rest).drop (quotes more).length) :=
          readUpTo_delimiter (by decide) here
      _ = some (escape [], rest) := by rw [List.drop_left, escape]
  | cons c inside ih =>
    obtain ⟨elsewhere, later⟩ := onlyAtEnd_cons_iff.mp onlyAtEnd
    by_cases backslash : c = '\\'
    · rw [escape, if_pos backslash]
      simp only [List.cons_append]
      rw [readUpTo_pair, ih later]
      rfl
    · have notHere : ¬ quotes more <+: c :: (escape inside ++ (quotes more ++ rest)) := by
        intro here
        apply elsewhere
        have unescaped := quotes_prefix_of_escape (Nat.le_refl (more + 1)) (c :: inside) rest
        rw [escape, if_neg backslash] at unescaped
        exact unescaped here
      rw [escape, if_neg backslash]
      simp only [List.cons_append]
      rw [readUpTo_cons backslash notHere, ih later]
      rfl

theorem getLast?_of_prefix_quotes {more : Nat} {run : List Char} (inRun : run <+: quotes more)
    (begins : run ≠ []) : run.getLast? = some '"' := by
  rw [List.getLast?_eq_some_getLast begins]
  have quote : run.getLast begins = '"' :=
    List.eq_of_mem_replicate (inRun.subset (List.getLast_mem begins))
  rw [quote]

/-- A delimiter after a text is the first one exactly if the text neither holds the
delimiter nor ends with a quote. -/
theorem onlyAtEnd_quotes_iff {more : Nat} {text : List Char} :
    OnlyAtEnd (quotes more) text ↔
      ¬ quotes more <:+: text ∧ text.getLast? ≠ some '"' := by
  constructor
  · intro onlyAtEnd
    constructor
    · rintro ⟨before, after, rfl⟩
      have none := onlyAtEnd before (after ++ quotes more) (by simp)
      simp [quotes] at none
    · intro quoted
      obtain ⟨before, rfl⟩ := List.getLast?_eq_some_iff.mp quoted
      have none := onlyAtEnd before ['"'] (by
        rw [quotes, List.append_assoc, ← List.replicate_succ', List.replicate_succ]
        rfl)
      cases none
  · rintro ⟨absent, unquoted⟩ before after same
    by_contra further
    have lengths := congrArg List.length same
    simp only [List.length_append] at lengths
    have nonempty : 0 < after.length := List.length_pos_iff.mpr further
    have occurs : before ++ quotes more <+: text ++ quotes more := ⟨after, by simp [same]⟩
    have whole := List.prefix_append text (quotes more)
    -- The delimiter lies in the text, or it begins there and the text ends within it.
    obtain ⟨later, inText⟩ | overlaps := List.prefix_or_prefix_of_prefix occurs whole
    · exact absent ⟨before, later, inText⟩
    · obtain ⟨run, rfl⟩ : before <+: text :=
        List.prefix_of_prefix_length_le ((List.prefix_append _ _).trans occurs) whole (by omega)
      have inRun := (List.prefix_append_right_inj before).mp overlaps
      have begins : run ≠ [] := by
        rintro rfl
        rw [List.append_nil] at lengths
        omega
      apply unquoted
      rw [List.getLast?_append, getLast?_of_prefix_quotes inRun begins]
      rfl

/-! ## Literals as tokens -/

/-- Whether a literal is one token: a value within its line holds no quote, and one
that spans lines neither holds three quotes in a row nor ends with a quote. -/
def StaysInside (value : List Char) : Prop :=
  if hasLineBreak value then ¬ blockDelimiter <:+: value ∧ value.getLast? ≠ some '"'
  else '"' ∉ value

instance (value : List Char) : Decidable (StaysInside value) :=
  inferInstanceAs (Decidable
    (if hasLineBreak value then ¬ blockDelimiter <:+: value ∧ value.getLast? ≠ some '"'
    else '"' ∉ value))

theorem onlyAtEnd_delimiterFor_iff {value : List Char} :
    OnlyAtEnd (delimiterFor value) value ↔ StaysInside value := by
  rw [delimiterFor_eq_quotes, onlyAtEnd_quotes_iff, StaysInside]
  split
  · rfl
  · rw [quotes, List.replicate_one, List.singleton_infix_iff]
    refine and_iff_left_of_imp ?_
    intro absent last
    exact absent (List.mem_of_getLast? last)

/-- The token that opens with the literal of a value ends at the first delimiter in
the value and the closing delimiter together. -/
theorem readToken_encodeChars {value inside outside : List Char}
    (split : value ++ delimiterFor value = inside ++ (delimiterFor value ++ outside))
    (onlyAtEnd : OnlyAtEnd (delimiterFor value) inside) (rest : List Char) :
    readToken (delimiterFor value) (encodeChars value ++ rest) =
      some (delimiterFor value ++ escape inside ++ delimiterFor value,
        escape outside ++ rest) := by
  have parts : escape value ++ delimiterFor value =
      escape inside ++ (delimiterFor value ++ escape outside) := by
    have escaped := congrArg escape split
    simpa only [escape_append, escape_delimiterFor] using escaped
  have text : encodeChars value ++ rest =
      delimiterFor value ++
        (escape inside ++ (delimiterFor value ++ (escape outside ++ rest))) := by
    rw [encodeChars, List.append_assoc, List.append_assoc, ← List.append_assoc (escape value),
      parts]
    simp only [List.append_assoc]
  rw [text, readToken_delimiter_append]
  rw [delimiterFor_eq_quotes] at onlyAtEnd ⊢
  rw [readUpTo_escape onlyAtEnd]
  rfl

/-- A literal is one token, whatever follows it, exactly if its value stays
inside. -/
theorem readToken_encodeChars_eq_iff (value rest : List Char) :
    readToken (delimiterFor value) (encodeChars value ++ rest) =
      some (encodeChars value, rest) ↔ StaysInside value := by
  rw [← onlyAtEnd_delimiterFor_iff]
  constructor
  · intro complete
    obtain ⟨inside, outside, split, onlyAtEnd⟩ := exists_first (delimiterFor value) value
    rw [readToken_encodeChars split onlyAtEnd rest] at complete
    have nothing : outside = [] := by
      simp only [Option.some.injEq, Prod.mk.injEq] at complete
      exact escape_eq_nil_iff.mp (List.append_left_eq_self.mp complete.2)
    rw [nothing, List.append_nil] at split
    have whole : inside = value := (List.append_cancel_right split).symm
    rwa [whole] at onlyAtEnd
  · intro onlyAtEnd
    rw [readToken_encodeChars (by rw [List.append_nil]) onlyAtEnd rest]
    rfl

end RunOnce.Text.Literal
