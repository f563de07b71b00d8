import RunOnce.Proofs.Compile.Comments
import RunOnce.Proofs.Text.Mended
import RunOnce.Proofs.Text.RoundTrip

/-!
# What the comment of an assignment tells

Above an assignment stands a comment with its raw value. Two escapings lie between the value
and the comment: the literal doubles backslashes, and the comment breaks up terminators. A
comment does not tell every text from every other, but in a literal backslashes come in
pairs, so there is no broken terminator in it, and nothing of the value is lost.
-/

namespace RunOnce.Text.Literal

open Comment (brokenTerminator)

/-- A terminator is broken up by a backslash on its own. -/
theorem BackslashesPaired.not_brokenTerminator {text : List Char}
    (paired : BackslashesPaired text) : ¬ brokenTerminator <:+: text := by
  rintro ⟨before, after, rfl⟩
  have alone : Even 1 := paired (before ++ ['*']) 1 ('/' :: after)
    (by simp [brokenTerminator]) (by simp) (by simp)
  exact Nat.not_even_one alone

theorem backslashesPaired_escape (text : List Char) : BackslashesPaired (escape text) := by
  rw [← escape_unescape_eq_self_iff, unescape_escape]

/-- A literal is what doubling makes of a value between its delimiters. -/
theorem encodeChars_eq_escape (value : List Char) :
    encodeChars value = escape (delimiterFor value ++ value ++ delimiterFor value) := by
  have delimiter : escape (delimiterFor value) = delimiterFor value := by
    apply escape_of_not_mem
    unfold delimiterFor
    split <;> decide
  rw [escape_append, escape_append, delimiter, encodeChars]

end RunOnce.Text.Literal

namespace RunOnce.Compile

open RunOnce.Expansion
open RunOnce.Generated
open RunOnce.Journal
open RunOnce.Model
open RunOnce.Text

/-- The value that is assigned to a name in a comment. -/
def rawValue? (name comment : String) : Option String :=
  let before := Comment.mend name.toList ++ [' ', '=', ' ']
  Literal.decode (String.ofList ((Comment.decode comment).toList.drop before.length).dropLast)

/-- The text of an assignment is mended in its name only. -/
theorem mend_assignmentText (name value : String) :
    Comment.mend (assignmentText name value).toList =
      Comment.mend name.toList ++ [' ', '=', ' '] ++ (Literal.encode value).toList ++ [';'] := by
  have text : (assignmentText name value).toList =
      name.toList ++ ' ' :: (['=', ' '] ++ (Literal.encode value).toList ++ [';']) := by
    simp [assignmentText]
  have whole : Comment.mend (['=', ' '] ++ (Literal.encode value).toList ++ [';']) =
      ['=', ' '] ++ (Literal.encode value).toList ++ [';'] := by
    have doubled : ['=', ' '] ++ (Literal.encode value).toList ++ [';'] = Literal.escape
        (['=', ' '] ++ (Literal.delimiterFor value.toList ++ value.toList ++
          Literal.delimiterFor value.toList) ++ [';']) := by
      rw [Literal.escape_append, Literal.escape_append, ← Literal.encodeChars_eq_escape,
        Literal.encode, String.toList_ofList]
      rfl
    rw [Comment.mend_eq_self_iff, doubled]
    exact (Literal.backslashesPaired_escape _).not_brokenTerminator
  rw [text, Comment.mend_append_cons (by decide), whole]
  simp

theorem rawValue?_encode (name value : String) :
    rawValue? name (Comment.encode (assignmentText name value)) = some value := by
  rw [rawValue?, Comment.decode_encode, String.toList_ofList, mend_assignmentText,
    List.append_assoc, List.drop_left, List.dropLast_concat, String.ofList_toList,
    Literal.decode_encode]

/-- The raw value of every assignment can be read from the lines that are written for it, and
from no two values comes the same comment over the same name. Comments as such tell less: two
texts have the same one exactly if they are the same once their broken terminators are put
together. -/
theorem raw_values_recovered :
    (∀ (expander : Expander) (assignment : Assignment) (level : Nat),
      ∃ statements, (assignmentStatements expander assignment : Traced Failure _).outcome =
          .ok statements ∧
        ∃ line ∈ Statement.linesOfAll level statements,
          line.text = Comment.encode (assignmentText assignment.name assignment.value) ∧
            rawValue? assignment.name line.text = some assignment.value) ∧
    (∀ name : String,
      Function.Injective fun value => Comment.encode (assignmentText name value)) ∧
    (∀ first second : String, Comment.encode first = Comment.encode second ↔
      Comment.mend first.toList = Comment.mend second.toList) ∧
    ¬ Function.Injective Comment.encode := by
  refine ⟨?_, ?_, fun first second => Comment.encode_eq_encode_iff, ?_⟩
  · intro expander assignment level
    refine ⟨_, outcome_assignmentStatements expander assignment, ?_⟩
    obtain ⟨line, written, text⟩ :=
      exists_line_of_shows (shows_writtenAssignment.mpr (.inr rfl)) level
    exact ⟨line, written, text, by rw [text, rawValue?_encode]⟩
  · intro name first second same
    have values := congrArg (rawValue? name) same
    simpa only [rawValue?_encode, Option.some.injEq] using values
  · intro injective
    have same : Comment.encode "*/" = Comment.encode "*\\/" := by
      rw [Comment.encode_eq_encode_iff]
      decide
    exact absurd (injective same) (by decide)

end RunOnce.Compile
