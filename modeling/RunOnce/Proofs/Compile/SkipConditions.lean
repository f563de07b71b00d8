import RunOnce.Proofs.Compile.Written
import RunOnce.Proofs.Text.Comment
import RunOnce.Proofs.Text.Lines
import RunOnce.Proofs.Text.RoundTrip

/-!
# Raw skip conditions

The skip condition of a target is shown raw in a remark, the line before its guard. Other raw
texts are shown in block comments, which end where they are meant to. A remark ends with its
line. So a condition that spans lines is shown up to its first line break, and what follows
there is read as part of the program.
-/

namespace RunOnce.Compile

open RunOnce.Expansion
open RunOnce.Generated
open RunOnce.Journal
open RunOnce.Model
open RunOnce.Text
open RunOnce.Text.Comment (readRemark readRemark_append_cons readRemark_append_cons_eq_iff)
open RunOnce.Text.Literal (isLineBreak hasLineBreak hasLineBreak_append)

/-! ## The lines of a skip condition -/

/-- The remark that shows a skip condition. -/
def skipRemark (raw : String) : String :=
  "// if (" ++ raw ++ ")"

/-- The test of a skip condition, with the skip. -/
def skipGuard (test target : String) : String :=
  "if (" ++ test ++ ") \x7b " ++ runFlag target ++ " = true; return; \x7d"

/-- What is written before the guard of a skip condition. -/
def skipEcho (size : Nat) (raw : String) : String :=
  indentation size 1 ++ skipRemark raw ++ "\n"

/-- The lines of a procedure begin with its skip condition. -/
theorem lines_written_of_effective (context : Context) {target : Target} {raw : String}
    (given : effective target.condition = some raw) :
    ∃ rest, (written context target).lines =
      ⟨0, "void " ++ target.name ++ "()"⟩ :: ⟨0, "\x7b"⟩ :: ⟨1, skipRemark raw⟩ ::
        ⟨1, skipGuard (valueOrRaw context.expander raw) target.name⟩ :: rest := by
  have remark : "// " ++ ("if (" ++ raw ++ ")") = skipRemark raw := by
    rw [skipRemark, ← String.append_assoc, ← String.append_assoc]
    rfl
  have body : ∃ others, (written context target).body =
      .remark ("if (" ++ raw ++ ")") ::
        .skipWhen (valueOrRaw context.expander raw) target.name :: others := by
    simp only [written, writtenSkip, given, List.append_assoc, List.cons_append, List.nil_append]
    exact ⟨_, rfl⟩
  obtain ⟨others, body⟩ := body
  rw [Procedure.lines, body, Statement.linesOfAll, Statement.linesOfAll, Statement.lines, remark]
  exact ⟨_, rfl⟩

/-- The text of a procedure begins with its skip condition. -/
theorem text_written_of_effective (context : Context) (target : Target) {raw : String}
    (given : effective target.condition = some raw) (size : Nat) :
    ∃ rest, (written context target).text size =
      "void " ++ target.name ++ "()\n\x7b\n" ++ skipEcho size raw ++
        (indentation size 1 ++ skipGuard (valueOrRaw context.expander raw) target.name ++ "\n" ++
          rest) := by
  obtain ⟨rest, lines⟩ := lines_written_of_effective context given
  have flat : indentation size 0 = "" := by simp [indentation]
  have shown : skipRemark raw ≠ "" := by simp [skipRemark]
  have tested (test : String) : skipGuard test target.name ≠ "" := by simp [skipGuard]
  have opening (after : String) : "()\n" ++ ("\x7b\n" ++ after) = "()\n\x7b\n" ++ after := by
    rw [← String.append_assoc]
    rfl
  refine ⟨renderLines size rest, ?_⟩
  simp [Procedure.text, lines, renderLines, Line.render, flat, shown, tested, skipEcho,
    String.append_assoc, opening]

/-- Each line break of a skip condition is written out, beside the one at the end. -/
theorem countP_skipEcho (size : Nat) (raw : String) :
    (skipEcho size raw).toList.countP isLineBreak = raw.toList.countP isLineBreak + 1 := by
  have spaces : (indentation size 1).toList.countP isLineBreak = 0 := by
    rw [indentation, String.toList_ofList, List.countP_replicate]
    rfl
  have opening : "// if (".toList.countP isLineBreak = 0 := by decide
  have closing : ")".toList.countP isLineBreak = 0 := by decide
  have ending : "\n".toList.countP isLineBreak = 1 := by decide
  simp only [skipEcho, skipRemark, String.toList_append, List.countP_append, spaces, opening,
    closing, ending]
  omega

theorem hasLineBreak_skipRemark (raw : String) :
    hasLineBreak (skipRemark raw).toList = hasLineBreak raw.toList := by
  have opening : hasLineBreak "// if (".toList = false := by decide
  have closing : hasLineBreak ")".toList = false := by decide
  simp only [skipRemark, String.toList_append, hasLineBreak_append, opening, closing,
    Bool.false_or, Bool.or_false]

/-! ## Where the remark ends -/

/-- The skip condition of a procedure is shown raw before its guard, with as many line breaks
more than one as there are in the raw text. Read from its opening, the remark is the whole
echo of the condition exactly if the condition stays on one line. If it does not, the remark
ends at the first line break of the condition, and all that follows there is read as text of
the program. -/
theorem skip_remark_ends_at_first_line_break {context : Context} {target : Target}
    {result : Procedure} {raw : String}
    (compiled : (procedure context target).outcome = .ok result)
    (given : effective target.condition = some raw) (size : Nat) :
    ∃ test after rest, context.expander raw = .ok test ∧
      result.text size =
        "void " ++ target.name ++ "()\n\x7b\n" ++ skipEcho size raw ++ after ∧
      after = indentation size 1 ++ skipGuard test target.name ++ "\n" ++ rest ∧
      (skipEcho size raw).toList.countP isLineBreak = raw.toList.countP isLineBreak + 1 ∧
      (readRemark (skipRemark raw ++ "\n" ++ after).toList =
        ((skipRemark raw).toList, ("\n" ++ after).toList) ↔ hasLineBreak raw.toList = false) ∧
      ∀ inside c outside, raw.toList = inside ++ c :: outside →
        hasLineBreak inside = false → isLineBreak c = true →
        readRemark (skipRemark raw ++ "\n" ++ after).toList =
          ("// if (".toList ++ inside, c :: outside ++ (")\n" ++ after).toList) := by
  obtain ⟨⟨conditionExpands, _⟩, rfl⟩ := procedure_eq_ok_iff.mp compiled
  obtain ⟨test, expanded⟩ := conditionExpands_iff.mp conditionExpands raw given
  obtain ⟨rest, text⟩ := text_written_of_effective context target given size
  have value : valueOrRaw context.expander raw = test := by simp [valueOrRaw, expanded]
  rw [value] at text
  refine ⟨test, _, rest, expanded, text, rfl, countP_skipEcho size raw, ?_, ?_⟩
  · have feed : isLineBreak '\n' = true := rfl
    have behind (after : String) : ("\n" ++ after).toList = '\n' :: after.toList := by
      simp [String.toList_append]
    rw [String.append_assoc, String.toList_append, behind, ← hasLineBreak_skipRemark]
    exact readRemark_append_cons_eq_iff feed _
  · intro inside c outside spans unbroken breaks
    have opening : hasLineBreak ("// if (".toList ++ inside) = false := by
      rw [hasLineBreak_append, unbroken]
      rfl
    have divided (after : String) : (skipRemark raw ++ "\n" ++ after).toList =
        ("// if (".toList ++ inside) ++ c :: (outside ++ (")\n" ++ after).toList) := by
      simp [skipRemark, String.toList_append, spans]
    rw [divided, readRemark_append_cons opening breaks]
    rfl

/-- A target that is skipped under a condition. -/
def cleanUnless (condition : String) : Target where
  name := "Clean"
  condition := some condition

def releaseContext : Context where
  expander := (PropertyTable.mk [("Configuration", "Release"), ("Platform", "x64")]).expand
  producers := {}

/-- A condition on one line. -/
def shortCondition : String :=
  "'$(Configuration)' == 'Debug'"

theorem shortCondition_stays_inside :
    ∃ result after, (procedure releaseContext (cleanUnless shortCondition)).outcome = .ok result ∧
      result.text 4 = "void Clean()\n\x7b\n" ++ skipEcho 4 shortCondition ++ after ∧
      readRemark (skipRemark shortCondition ++ "\n" ++ after).toList =
        ("// if ('$(Configuration)' == 'Debug')".toList, ("\n" ++ after).toList) := by
  have compiled : (procedure releaseContext (cleanUnless shortCondition)).outcome =
      .ok (written releaseContext (cleanUnless shortCondition)) :=
    procedure_eq_ok_iff.mpr ⟨targetFailures_eq_nil_iff.mp (by decide +kernel), rfl⟩
  have given : effective (some shortCondition) = some shortCondition := by decide
  obtain ⟨_, after, _, _, text, _, _, whole, _⟩ :=
    skip_remark_ends_at_first_line_break compiled given 4
  exact ⟨_, after, compiled, text, whole.mpr (by decide)⟩

/-- A condition on two lines. -/
def splitCondition : String :=
  "'$(Configuration)' == 'Debug' ||\n'$(Platform)' == 'x86'"

/-- The second line of the condition is not in its remark. -/
theorem splitCondition_breaks_out :
    ∃ result after, (procedure releaseContext (cleanUnless splitCondition)).outcome = .ok result ∧
      result.text 4 = "void Clean()\n\x7b\n" ++ skipEcho 4 splitCondition ++ after ∧
      (skipEcho 4 splitCondition).toList.countP isLineBreak = 2 ∧
      readRemark (skipRemark splitCondition ++ "\n" ++ after).toList =
        ("// if ('$(Configuration)' == 'Debug' ||".toList,
          ("\n'$(Platform)' == 'x86')\n" ++ after).toList) := by
  have compiled : (procedure releaseContext (cleanUnless splitCondition)).outcome =
      .ok (written releaseContext (cleanUnless splitCondition)) :=
    procedure_eq_ok_iff.mpr ⟨targetFailures_eq_nil_iff.mp (by decide +kernel), rfl⟩
  have given : effective (some splitCondition) = some splitCondition := by decide
  obtain ⟨rest, text⟩ :=
    text_written_of_effective releaseContext (cleanUnless splitCondition) given 4
  refine ⟨_, _, compiled, text, (countP_skipEcho 4 splitCondition).trans (by decide), ?_⟩
  have divided (after : String) : (skipRemark splitCondition ++ "\n" ++ after).toList =
      "// if ('$(Configuration)' == 'Debug' ||".toList ++
        '\n' :: ("'$(Platform)' == 'x86')\n" ++ after).toList := by
    simp [skipRemark, splitCondition, String.toList_append]
  rw [divided, readRemark_append_cons (by decide) (by decide)]
  simp [String.toList_append]

end RunOnce.Compile
