import RunOnce.Proofs.Command.Markup
import RunOnce.Proofs.Command.Traces

/-!
# Status lines

A status line is made with markup, and the message in it is read as markup too. So it
shows the message itself exactly if markup leaves the message alone. Only a tag in the
message can keep the line from being shown at all.
-/

namespace RunOnce.Command

open RunOnce.Text

/-- Whether markup leaves a message alone. -/
structure IsPlain (message : List Char) : Prop where
  noTag : ¬HasTag message
  noEscape : ¬['\\', '['] <:+: message
  noEmoji : Emoji.replace message = message
  noHidden : ∀ c ∈ message, isHidden c = false
  noTab : '\t' ∉ message

namespace Status

/-- The symbol of a status as it is shown. -/
def sign : Status → Char
  | success => '✓'
  | error => '✗'
  | warning => '⚠'

/-- The colour of a status. -/
def colour : Status → String
  | success => "green"
  | error => "red"
  | warning => "yellow"

/-- The pieces of the symbol of a status. -/
def symbolPieces (status : Status) : List MarkupPiece :=
  [.tag 0 status.colour.toList, .text [status.sign],
    .tag (status.colour.length + 3) ('/' :: status.colour.toList)]

/-- What is rendered once the symbol of a status is. -/
def symbolRendering (status : Status) : Rendering where
  shown := [status.sign]
  spans := [⟨0, 1, status.colour.toList⟩]

theorem addPieces_symbolPieces (status : Status) :
    ({} : Rendering).addPieces status.symbolPieces = .ok status.symbolRendering := by
  cases status <;> decide +kernel

theorem read_colour (status : Status) :
    Style.read status.colour.toList = .ok { colour := some status.colour } := by
  cases status <;> decide +kernel

/-- The symbol is cut from what follows it. -/
theorem markupPieces_symbol (status : Status) (cs : List Char) :
    markupPieces 0 0 [] (status.symbol.toList ++ cs) =
      status.symbolPieces ++ markupPieces (2 * status.colour.length + 6) 0 [] cs := by
  have spelled : status.symbol.toList ++ cs =
      '[' :: (status.colour.toList ++ ']' :: status.sign ::
        '[' :: ('/' :: status.colour.toList ++ ']' :: cs)) := by cases status <;> rfl
  have opens : ∀ after, readTag? (status.colour.toList ++ ']' :: after) =
      some (status.colour.toList, after) := by
    intro after
    cases status <;> rfl
  have closes : ∀ after, readTag? ('/' :: status.colour.toList ++ ']' :: after) =
      some ('/' :: status.colour.toList, after) := by
    intro after
    cases status <;> rfl
  rw [spelled, markupPieces_of_readTag? (opens _),
    markupPieces_cons (by cases status <;> decide) (by cases status <;> decide),
    markupPieces_of_readTag? (closes _)]
  have position : 0 + status.colour.toList.length + 2 + 1 +
      ('/' :: status.colour.toList).length + 2 = 2 * status.colour.length + 6 := by
    simp only [String.length_toList, List.length_cons]
    omega
  rw [position]
  simp [symbolPieces, textPiece, String.length_toList]

theorem toList_symbol_append (status : Status) (message : String) :
    (status.symbol ++ " " ++ message).toList = status.symbol.toList ++ ' ' :: message.toList := by
  simp [String.toList_append]

theorem shownText_space_cons (cs : List Char) : shownText (' ' :: cs) = ' ' :: shownText cs := by
  have escaped : unescape (' ' :: cs) = ' ' :: unescape cs := by simp [unescape]
  have replaced : Emoji.replace (' ' :: unescape cs) = ' ' :: Emoji.replace (unescape cs) := by
    rw [Emoji.replace]
    exact if_neg (fun colon => absurd colon.1 (by decide))
  rw [shownText, escaped, replaced, List.filter_cons_of_pos (by decide)]
  rfl

theorem hasTag_space_cons {cs : List Char} : HasTag (' ' :: cs) ↔ HasTag cs := by
  simp [hasTag_cons_iff]

/-- What a message without tags is shown as. -/
theorem line_of_not_hasTag (status : Status) {message : String}
    (noTag : ¬HasTag message.toList) :
    status.line message = .ok
      (String.ofList (expandTabs (status.sign :: ' ' :: shownText message.toList)) ++ "\n") := by
  have single : markupPieces (2 * status.colour.length + 6) 0 [] (' ' :: message.toList) =
      [.text (' ' :: message.toList)] := by
    obtain ⟨_, single⟩ | ⟨tagged, _⟩ :=
      markupPieces_cases (2 * status.colour.length + 6) 0 [] (' ' :: message.toList)
    · exact single
    · exact absurd (hasTag_space_cons.mp tagged) noTag
  have adds : ({} : Rendering).addPieces
      (markupPieces 0 0 [] (status.symbol ++ " " ++ message).toList) =
        .ok { status.symbolRendering with
          shown := status.sign :: ' ' :: shownText message.toList } := by
    rw [toList_symbol_append, markupPieces_symbol, single,
      Rendering.addPieces_append _ _ (addPieces_symbolPieces status)]
    simp [Rendering.addPieces, symbolRendering, shownText_space_cons]
  unfold line
  rw [renderMarkup_of_addPieces adds]
  · rfl
  · intro span listed fault
    obtain rfl : span = ⟨0, 1, status.colour.toList⟩ := by
      simpa [Rendering.allSpans, symbolRendering] using listed
    rw [read_colour]
    intro same
    cases same

theorem signed_eq_ofList (status : Status) (message : String) :
    String.singleton status.sign ++ " " ++ message =
      String.ofList (status.sign :: ' ' :: message.toList) := by
  rw [← String.toList_inj]
  simp [String.toList_append]

/-- What a line shows besides its symbol, before tabs are replaced. -/
theorem expandTabs_of_line {status : Status} {message : String}
    (shows : status.line message =
      .ok (String.singleton status.sign ++ " " ++ message ++ "\n")) :
    expandTabs (status.sign ::
        shownPieces (markupPieces (2 * status.colour.length + 6) 0 [] (' ' :: message.toList))) =
      status.sign :: ' ' :: message.toList := by
  unfold line at shows
  cases renders : renderMarkup (status.symbol ++ " " ++ message) with
  | error error =>
    rw [renders] at shows
    cases shows
  | ok text =>
    rw [renders] at shows
    have same : text = String.singleton status.sign ++ " " ++ message :=
      (String.append_left_inj "\n").mp (Except.ok.inj shows)
    obtain ⟨rendering, adds, rfl⟩ := exists_rendering_of_renderMarkup renders
    rw [toList_symbol_append, markupPieces_symbol,
      Rendering.addPieces_append _ _ (addPieces_symbolPieces status)] at adds
    rw [Rendering.shown_of_addPieces adds, signed_eq_ofList] at same
    exact String.ofList_injective same

/-- Where a line is the message itself, the pieces of the message lose nothing. Colons
tell that no emoji is put in, and without tabs nothing is left that could be. -/
theorem shownPieces_of_line {status : Status} {message : String}
    (shows : status.line message =
      .ok (String.singleton status.sign ++ " " ++ message ++ "\n")) :
    keptText (markupPieces (2 * status.colour.length + 6) 0 [] (' ' :: message.toList)) =
        ' ' :: message.toList ∧
      shownPieces (markupPieces (2 * status.colour.length + 6) 0 [] (' ' :: message.toList)) =
        ' ' :: message.toList ∧
      '\t' ∉ message.toList := by
  have expanded := expandTabs_of_line shows
  generalize pieces : markupPieces (2 * status.colour.length + 6) 0 [] (' ' :: message.toList) =
    cut at expanded ⊢
  have kept : (keptText cut).Sublist (' ' :: message.toList) := by
    rw [← pieces]
    obtain ⟨_, single⟩ | ⟨_, fewer, _⟩ :=
      markupPieces_cases (2 * status.colour.length + 6) 0 [] (' ' :: message.toList)
    · rw [single, keptText_textPiece]
      exact List.Sublist.refl _
    · exact fewer
  have colons : (shownPieces cut).count ':' = (' ' :: message.toList).count ':' := by
    have counted := count_expandTabs (c := ':') (by decide) (by decide)
      (status.sign :: shownPieces cut)
    rw [expanded, List.count_filter (by decide)] at counted
    simp only [List.count_cons] at counted ⊢
    omega
  have within : (shownPieces cut).Sublist (keptText cut) := by
    obtain shown | fewer := shownPieces_cases cut
    · exact shown
    · have := kept.count_le ':'
      omega
  have noTab : '\t' ∉ status.sign :: ' ' :: message.toList := by
    rw [← expanded]
    exact tab_not_mem_expandTabs _
  have noTabShown : '\t' ∉ status.sign :: shownPieces cut :=
    fun listed => noTab (((within.trans kept).cons_cons status.sign).subset listed)
  rw [expandTabs_of_not_mem noTabShown] at expanded
  have shown := (List.cons.inj expanded).2
  rw [shown] at within
  refine ⟨kept.antisymm within, shown, ?_⟩
  intro listed
  exact noTab (by simp [listed])

/-- A line shows the message itself exactly if the message is plain. -/
theorem line_eq_message_iff {status : Status} {message : String} :
    status.line message = .ok (String.singleton status.sign ++ " " ++ message ++ "\n") ↔
      IsPlain message.toList := by
  constructor
  · intro shows
    obtain ⟨kept, shown, noTab⟩ := shownPieces_of_line shows
    obtain ⟨noTag, single⟩ | ⟨_, _, shorter⟩ :=
      markupPieces_cases (2 * status.colour.length + 6) 0 [] (' ' :: message.toList)
    · have single : markupPieces (2 * status.colour.length + 6) 0 [] (' ' :: message.toList) =
          [.text (' ' :: message.toList)] := single
      have same : ' ' :: shownText message.toList = ' ' :: message.toList := by
        rw [single] at shown
        simpa [shownPieces, shownText_space_cons] using shown
      obtain ⟨noEscape, noEmoji, noHidden⟩ :=
        shownText_eq_self_iff.mp (List.cons.inj same).2
      exact ⟨fun tagged => noTag (hasTag_space_cons.mpr tagged), noEscape, noEmoji, noHidden, noTab⟩
    · rw [kept] at shorter
      exact absurd shorter (Nat.lt_irrefl _)
  · intro plain
    have shown : shownText message.toList = message.toList :=
      shownText_eq_self_iff.mpr ⟨plain.noEscape, plain.noEmoji, plain.noHidden⟩
    have noTab : '\t' ∉ status.sign :: ' ' :: message.toList := by
      have printed : '\t' ≠ status.sign := by cases status <;> decide
      simp [plain.noTab, printed]
    rw [line_of_not_hasTag status plain.noTag, shown, expandTabs_of_not_mem noTab,
      signed_eq_ofList]

end Status

/-! ## Reports -/

/-- One more notice is shown after others that are all shown. -/
theorem showNotices_concat {threshold : Nat} {notices : List Notice}
    (shown : (showNotices threshold notices).2 = none) (notice : Notice) :
    showNotices threshold (notices ++ [notice]) =
      match notice.text threshold with
      | .ok text => ((showNotices threshold notices).1 ++ text, none)
      | .error error => ((showNotices threshold notices).1, some error) := by
  induction notices with
  | nil =>
    simp only [List.nil_append, showNotices]
    cases notice.text threshold <;> simp
  | cons first notices ih =>
    unfold showNotices at shown
    cases opens : first.text threshold with
    | error error =>
      rw [opens] at shown
      cases shown
    | ok text =>
      rw [opens] at shown
      simp only [List.cons_append, showNotices, opens, ih shown]
      cases notice.text threshold <;> simp [String.append_assoc]

theorem errors_report (threshold : Nat) (transcript : Transcript) :
    (transcript.report threshold).errors = (showNotices threshold transcript.allNotices).1 := by
  unfold Transcript.report
  obtain ⟨errors, error?⟩ := showNotices threshold transcript.allNotices
  cases error? <;> rfl

/-- The last words of a command that gives up are shown as they are exactly if they are
plain. -/
theorem errors_report_gaveUp_iff {threshold : Nat} {transcript : Transcript} {trouble : Trouble}
    (gaveUp : transcript.ending = .gaveUp trouble)
    (shown : (showNotices threshold transcript.notices).2 = none) :
    (transcript.report threshold).errors =
        (showNotices threshold transcript.notices).1 ++
          (String.singleton Status.error.sign ++ " " ++ trouble.message ++ "\n") ↔
      IsPlain trouble.message.toList := by
  have notices : transcript.allNotices =
      transcript.notices ++ [.status .error trouble.message] := by
    rw [Transcript.allNotices, gaveUp]
  rw [errors_report, notices, showNotices_concat shown, ← Status.line_eq_message_iff]
  cases told : Status.error.line trouble.message with
  | ok line => simp [Notice.text, told]
  | error error =>
    simp only [Notice.text, told, reduceCtorEq, iff_false]
    intro same
    have lengths := congrArg String.length same
    simp only [String.length_append, String.length_singleton] at lengths
    omega

/-- A status line shows its message as it is exactly if the message is plain, and only a
message with a tag cannot be shown. What a command notes has no part in its output
stream. So what a command says last is shown as it is exactly if it is plain. -/
theorem messages_shown_iff_plain (status : Status) (message : String) (threshold : Nat)
    (transcript : Transcript) :
    (status.line message = .ok (String.singleton status.sign ++ " " ++ message ++ "\n") ↔
      IsPlain message.toList) ∧
    ((∃ error, status.line message = .error error) → HasTag message.toList) ∧
    (Transcript.report threshold { transcript with
        notices := transcript.notices ++ [.status status message] }).output =
      (transcript.report threshold).output ∧
    ∀ trouble, transcript.ending = .gaveUp trouble →
      (showNotices threshold transcript.notices).2 = none →
        ((transcript.report threshold).errors =
            (showNotices threshold transcript.notices).1 ++
              (String.singleton Status.error.sign ++ " " ++ trouble.message ++ "\n") ↔
          IsPlain trouble.message.toList) := by
  refine ⟨Status.line_eq_message_iff, ?_, ?_, ?_⟩
  · rintro ⟨error, fails⟩
    by_contra noTag
    cases fails.symm.trans (status.line_of_not_hasTag noTag)
  · rw [output_report, output_report]
  · intro trouble gaveUp shown
    exact errors_report_gaveUp_iff gaveUp shown

/-- A refusal to write a file holds nothing to read. -/
theorem denied_message_shown :
    (Transcript.report 30 { ending := .gaveUp (.denied "write" "build.csx") }).errors =
        "✗ Permission denied: Cannot write build.csx\n" ∧
      IsPlain (Trouble.denied "write" "build.csx").message.toList := by
  have errors : (Transcript.report 30 { ending := .gaveUp (.denied "write" "build.csx") }).errors =
      "✗ Permission denied: Cannot write build.csx\n" := by decide +kernel
  obtain ⟨_, _, _, last⟩ := messages_shown_iff_plain .success "" 30
    { ending := .gaveUp (.denied "write" "build.csx") }
  exact ⟨errors, (last _ rfl rfl).mp (errors.trans (by decide +kernel))⟩

/-- The name of a file loses what looks like a tag, and a closing tag keeps the line from
being shown. -/
theorem tagged_message_lost :
    Status.success.line "Compiled to out[v1].csx" = .ok "✓ Compiled to out.csx\n" ∧
      Status.error.line "Cannot write out[/v1].csx" = .error (.unmatched "/v1" 29) := by
  refine ⟨?_, by decide +kernel⟩
  have adds : ({} : Rendering).addPieces
      (markupPieces 0 0 [] (Status.success.symbol ++ " " ++ "Compiled to out[v1].csx").toList) =
        .ok ⟨"✓ Compiled to out.csx".toList, [⟨"v1", none, 17⟩], [⟨0, 1, "green".toList⟩]⟩ := by
    decide +kernel
  unfold Status.line
  rw [renderMarkup_of_addPieces adds]
  · decide +kernel
  · intro span listed fault
    have tag : Style.read ['v', '1'] = .error .notStyle := by decide +kernel
    have symbol : Style.read ['g', 'r', 'e', 'e', 'n'] = .ok { colour := some "green" } := by
      decide +kernel
    have spans : span = ⟨17, 21, ['v', '1']⟩ ∨ span = ⟨0, 1, ['g', 'r', 'e', 'e', 'n']⟩ := by
      simpa [Rendering.allSpans, Rendering.spanOf, OpenStyle.description] using listed
    obtain rfl | rfl := spans
    · rw [tag]
      intro same
      cases same
    · rw [symbol]
      intro same
      cases same

end RunOnce.Command
