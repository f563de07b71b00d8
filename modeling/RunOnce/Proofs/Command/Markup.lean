import Mathlib.Data.List.TakeWhile
import RunOnce.Command.Console
import RunOnce.Proofs.Outcome
import RunOnce.Proofs.Text.Emoji

/-!
# Messages that markup leaves alone

What is shown of a message is made in steps. The message is cut into texts and tags,
backslashes before brackets go, names of emoji are replaced, hidden characters go, and
tabs become spaces. Except for emoji and tabs each step only leaves something out. So a
message is shown as it is exactly if each step leaves it as it is.
-/

namespace RunOnce.Command

open RunOnce.Text

/-! ## Tags -/

/-- Whether a tag stands somewhere. -/
def HasTag (cs : List Char) : Prop :=
  ∃ first inside, '[' :: first :: (inside ++ [']']) <:+: cs ∧
    startsTag first = true ∧ '[' ∉ inside ∧ ']' ∉ inside

theorem readTag?_eq_some_iff {cs content after : List Char} :
    readTag? cs = some (content, after) ↔
      ∃ first inside, content = first :: inside ∧ cs = first :: (inside ++ ']' :: after) ∧
        startsTag first = true ∧ '[' ∉ inside ∧ ']' ∉ inside := by
  constructor
  · intro read
    cases cs with
    | nil => cases read
    | cons first rest =>
      simp only [readTag?] at read
      split at read
      · rename_i starts
        split at read
        · rename_i tail follows
          cases read
          have parts := List.prefix_iff_eq_append.mp
            (List.takeWhile_prefix (l := rest) fun c => c != '[' && c != ']')
          rw [follows] at parts
          refine ⟨first, _, rfl, by rw [parts], starts, ?_, ?_⟩ <;>
          · intro listed
            simpa using List.mem_takeWhile_imp listed
        · cases read
      · cases read
  · rintro ⟨first, inside, rfl, rfl, starts, noOpening, noClosing⟩
    have within : ∀ c ∈ inside, (c != '[' && c != ']') = true := by
      intro c listed
      simp [ne_of_mem_of_not_mem listed noOpening, ne_of_mem_of_not_mem listed noClosing]
    have taken : (inside ++ ']' :: after).takeWhile (fun c => c != '[' && c != ']') = inside := by
      rw [List.takeWhile_append_of_pos within]
      simp
    simp [readTag?, starts, taken]

theorem not_hasTag_nil : ¬HasTag [] := by
  rintro ⟨_, _, within, _⟩
  cases List.infix_nil.mp within

/-- A tag is in front if it can be read there. -/
theorem hasTag_cons_iff {c : Char} {cs : List Char} :
    HasTag (c :: cs) ↔ c = '[' ∧ (∃ tag, readTag? cs = some tag) ∨ HasTag cs := by
  unfold HasTag
  simp only [List.infix_cons_iff, List.cons_prefix_cons, or_and_right, exists_or]
  refine or_congr_left ?_
  constructor
  · rintro ⟨first, inside, ⟨rfl, after, rfl⟩, conditions⟩
    exact ⟨rfl, (first :: inside, after), readTag?_eq_some_iff.mpr
      ⟨first, inside, rfl, by simp, conditions⟩⟩
  · rintro ⟨rfl, ⟨content, after⟩, read⟩
    obtain ⟨first, inside, rfl, rfl, conditions⟩ := readTag?_eq_some_iff.mp read
    exact ⟨first, inside, ⟨rfl, after, by simp⟩, conditions⟩

/-! ## Pieces -/

/-- What pieces have of the text of a message. -/
def keptText (pieces : List MarkupPiece) : List Char :=
  pieces.flatMap fun | .text characters => characters | .tag .. => []

theorem keptText_append (first second : List MarkupPiece) :
    keptText (first ++ second) = keptText first ++ keptText second :=
  List.flatMap_append

theorem keptText_textPiece (characters : List Char) :
    keptText (textPiece characters) = characters := by
  unfold textPiece
  split
  · rename_i empty
    exact (List.isEmpty_iff.mp empty).symm
  · simp [keptText]

/-- Whether characters are others of which some are left out. -/
def Loses (kept whole : List Char) : Prop :=
  kept.Sublist whole ∧ kept.length < whole.length

/-- Cutting out a tag loses the tag itself. If the tag is text, it is the backslash
before it that is lost. -/
theorem loses_of_tag {slashes : Nat} {content after : List Char} {next : List MarkupPiece}
    (keeps : (keptText next).Sublist after) (position : Nat) (before : List Char) :
    Loses
      (keptText
        (let kept := textPiece before ++ textPiece (List.replicate (slashes / 2) '\\')
        if slashes % 2 = 1 then kept ++ .text ('[' :: content ++ [']']) :: next
        else kept ++ .tag position content :: next))
      (before ++ (List.replicate slashes '\\' ++ '[' :: (content ++ ']' :: after))) := by
  have fewer := (List.replicate_sublist_replicate '\\').mpr (Nat.div_le_self slashes 2)
  have short := keeps.length_le
  dsimp only
  split
  · have kept : keptText (.text ('[' :: content ++ [']']) :: next) =
        '[' :: (content ++ ']' :: keptText next) := by simp [keptText]
    rw [keptText_append, keptText_append, keptText_textPiece, keptText_textPiece, kept,
      List.append_assoc]
    have tag : ('[' :: (content ++ ']' :: keptText next)).Sublist
        ('[' :: (content ++ ']' :: after)) :=
      ((keeps.cons_cons ']').append_left content).cons_cons '['
    refine ⟨(List.Sublist.refl before).append (fewer.append tag), ?_⟩
    simp only [List.length_append, List.length_cons, List.length_replicate]
    omega
  · have kept : keptText (.tag position content :: next) = keptText next := by simp [keptText]
    rw [keptText_append, keptText_append, keptText_textPiece, keptText_textPiece, kept,
      List.append_assoc]
    have behind : (keptText next).Sublist ('[' :: (content ++ ']' :: after)) :=
      ((keeps.cons ']').trans (List.sublist_append_right content _)).cons '['
    refine ⟨(List.Sublist.refl before).append (fewer.append behind), ?_⟩
    simp only [List.length_append, List.length_cons, List.length_replicate]
    omega

/-- A message without tags is one piece of text. One with tags loses something, and
keeps the order of the rest. -/
theorem markupPieces_cases (position slashes : Nat) (before cs : List Char) :
    (¬HasTag cs ∧ markupPieces position slashes before cs =
        textPiece (before.reverse ++ (List.replicate slashes '\\' ++ cs))) ∨
      HasTag cs ∧ Loses (keptText (markupPieces position slashes before cs))
        (before.reverse ++ (List.replicate slashes '\\' ++ cs)) := by
  fun_induction markupPieces position slashes before cs with
  | case1 position slashes before slashed => exact .inl ⟨not_hasTag_nil, by simp [slashed]⟩
  | case2 position slashes before rest ih =>
    simpa [hasTag_cons_iff, List.replicate_succ'] using ih
  | case3 position slashes before rest content after read _ _ ih
  | case4 position slashes before rest content after read _ _ ih =>
    have keeps : (keptText (markupPieces (position + content.length + 2) 0 [] after)).Sublist
        after := by
      obtain ⟨_, single⟩ | ⟨_, loses, _⟩ := ih
      · simp [single, keptText_textPiece]
      · simpa using loses
    obtain ⟨first, inside, rfl, rfl, _⟩ := readTag?_eq_some_iff.mp read
    exact .inr ⟨hasTag_cons_iff.mpr (.inl ⟨rfl, _, read⟩),
      loses_of_tag keeps position before.reverse⟩
  | case5 position slashes before slashed rest read ih =>
    simpa [hasTag_cons_iff, read, slashed] using ih
  | case6 position slashes before slashed c rest noSlash noBracket ih =>
    have other : c ≠ '[' := noBracket
    simpa [hasTag_cons_iff, other, slashed] using ih

theorem markupPieces_of_readTag? {position : Nat} {before rest content after : List Char}
    (read : readTag? rest = some (content, after)) :
    markupPieces position 0 before ('[' :: rest) =
      textPiece before.reverse ++
        .tag position content :: markupPieces (position + content.length + 2) 0 [] after := by
  rw [markupPieces]
  split
  · rename_i found
    cases read.symm.trans found
    simp [textPiece]
  · rename_i unread
    cases read.symm.trans unread

theorem markupPieces_cons {position : Nat} {before rest : List Char} {c : Char}
    (noSlash : c ≠ '\\') (noBracket : c ≠ '[') :
    markupPieces position 0 before (c :: rest) =
      markupPieces (position + 1) 0 (c :: before) rest := by
  rw [markupPieces]
  · simp
  · exact noSlash
  · exact noBracket

/-! ## Pieces as they are shown -/

/-- Backslashes before brackets are left out, and nothing else. -/
theorem unescape_cases (cs : List Char) :
    (¬['\\', '['] <:+: cs ∧ unescape cs = cs) ∨ ['\\', '['] <:+: cs ∧ Loses (unescape cs) cs := by
  fun_induction unescape cs with
  | case1 => exact .inl ⟨by simp, rfl⟩
  | case2 rest ih =>
    refine .inr ⟨⟨[], rest, rfl⟩, ?_⟩
    obtain ⟨_, same⟩ | ⟨_, fewer, shorter⟩ := ih
    · rw [same]
      exact ⟨List.sublist_cons_self _ _, Nat.lt_succ_self _⟩
    · exact ⟨(fewer.cons_cons '[').cons '\\', by simp only [List.length_cons]; omega⟩
  | case3 c rest other ih =>
    have inside : ['\\', '['] <:+: c :: rest ↔ ['\\', '['] <:+: rest := by
      rw [List.infix_cons_iff, or_iff_right]
      intro opens
      obtain ⟨rfl, after, rfl⟩ := List.cons_prefix_cons.mp opens
      exact other after rfl rfl
    rw [inside]
    obtain ⟨absent, same⟩ | ⟨present, fewer, shorter⟩ := ih
    · exact .inl ⟨absent, congrArg (c :: ·) same⟩
    · exact .inr ⟨present, fewer.cons_cons c, Nat.succ_lt_succ shorter⟩

theorem unescape_sublist (cs : List Char) : (unescape cs).Sublist cs := by
  obtain ⟨_, same⟩ | ⟨_, fewer, _⟩ := unescape_cases cs
  · rw [same]
  · exact fewer

/-- Where names of emoji are replaced, a piece of text is shown with fewer colons. -/
theorem shownText_cases (cs : List Char) :
    (Emoji.replace (unescape cs) = unescape cs ∧ (shownText cs).Sublist cs) ∨
      (shownText cs).count ':' < cs.count ':' := by
  obtain same | fewer := Emoji.replace_cases (unescape cs)
  · refine .inl ⟨same, ?_⟩
    rw [shownText, same]
    exact List.filter_sublist.trans (unescape_sublist cs)
  · refine .inr ?_
    calc (shownText cs).count ':'
      _ ≤ (Emoji.replace (unescape cs)).count ':' := List.filter_sublist.count_le ':'
      _ < (unescape cs).count ':' := fewer
      _ ≤ cs.count ':' := (unescape_sublist cs).count_le ':'

/-- A piece of text is shown as it is exactly if it has no backslash before a bracket, no
name of an emoji and no hidden character. -/
theorem shownText_eq_self_iff {cs : List Char} :
    shownText cs = cs ↔
      ¬['\\', '['] <:+: cs ∧ Emoji.replace cs = cs ∧ ∀ c ∈ cs, isHidden c = false := by
  constructor
  · intro shows
    obtain ⟨same, _⟩ | fewer := shownText_cases cs
    · have visible : (unescape cs).filter (fun c => !isHidden c) = cs := by
        rw [← same]
        exact shows
      obtain ⟨absent, whole⟩ | ⟨_, _, shorter⟩ := unescape_cases cs
      · rw [whole] at same visible
        refine ⟨absent, same, ?_⟩
        simpa using List.filter_eq_self.mp visible
      · have atMost := List.length_filter_le (fun c => !isHidden c) (unescape cs)
        rw [visible] at atMost
        exact absurd atMost (Nat.not_le_of_lt shorter)
    · rw [shows] at fewer
      exact absurd fewer (Nat.lt_irrefl _)
  · rintro ⟨absent, same, visible⟩
    have whole : unescape cs = cs := by
      obtain ⟨_, whole⟩ | ⟨present, _⟩ := unescape_cases cs
      · exact whole
      · exact absurd present absent
    rw [shownText, whole, same, List.filter_eq_self]
    simpa using visible

/-- What is shown of pieces. -/
def shownPieces (pieces : List MarkupPiece) : List Char :=
  pieces.flatMap fun | .text characters => shownText characters | .tag .. => []

theorem shownPieces_cases (pieces : List MarkupPiece) :
    (shownPieces pieces).Sublist (keptText pieces) ∨
      (shownPieces pieces).count ':' < (keptText pieces).count ':' := by
  induction pieces with
  | nil => exact .inl (List.Sublist.refl _)
  | cons piece pieces ih =>
    cases piece with
    | tag => exact ih
    | text characters =>
      have shown : shownPieces (.text characters :: pieces) =
        shownText characters ++ shownPieces pieces := rfl
      have kept : keptText (.text characters :: pieces) = characters ++ keptText pieces := rfl
      rw [shown, kept, List.count_append, List.count_append]
      obtain ⟨_, within⟩ | fewer := shownText_cases characters
      · have atMost := within.count_le ':'
        obtain others | fewerOthers := ih
        · exact .inl (within.append others)
        · exact .inr (by omega)
      · have atMost : (shownPieces pieces).count ':' ≤ (keptText pieces).count ':' := by
          obtain others | fewerOthers := ih
          · exact others.count_le ':'
          · exact Nat.le_of_lt fewerOthers
        exact .inr (by omega)

/-! ## Messages as they are shown -/

namespace Rendering

variable {rendering rendered : Rendering} {pieces : List MarkupPiece}

theorem shown_of_close {closed : OpenStyle} {others : List OpenStyle}
    (closes : rendering.close closed others = .ok rendered) : rendered.shown = rendering.shown := by
  unfold close at closes
  split at closes
  · cases closes
  · cases closes
    rfl

/-- A tag shows nothing. -/
theorem shown_of_applyTag {position : Nat} {content : List Char}
    (applied : rendering.applyTag position content = .ok rendered) :
    rendered.shown = rendering.shown := by
  unfold applyTag at applied
  dsimp only at applied
  split at applied
  · split at applied
    · split at applied
      · cases applied
      · exact shown_of_close applied
    · obtain ⟨name, _, applied⟩ := exceptBind_eq_ok_iff.mp applied
      split at applied
      · cases applied
      · exact shown_of_close applied
  · obtain ⟨name, _, applied⟩ := exceptBind_eq_ok_iff.mp applied
    cases applied
    rfl

theorem shown_of_addPieces (adds : rendering.addPieces pieces = .ok rendered) :
    rendered.shown = rendering.shown ++ shownPieces pieces := by
  induction pieces generalizing rendering with
  | nil =>
    cases adds
    simp [shownPieces]
  | cons piece pieces ih =>
    cases piece with
    | text characters =>
      rw [ih adds, List.append_assoc]
      rfl
    | tag position content =>
      obtain ⟨tagged, applied, adds⟩ := exceptBind_eq_ok_iff.mp adds
      rw [ih adds, shown_of_applyTag applied]
      rfl

/-- Pieces are rendered in two goes as in one. -/
theorem addPieces_append (first second : List MarkupPiece)
    (adds : rendering.addPieces first = .ok rendered) :
    rendering.addPieces (first ++ second) = rendered.addPieces second := by
  induction first generalizing rendering with
  | nil =>
    cases adds
    rfl
  | cons piece pieces ih =>
    cases piece with
    | text characters => exact ih adds
    | tag position content =>
      obtain ⟨tagged, applied, adds⟩ := exceptBind_eq_ok_iff.mp adds
      rw [List.cons_append, addPieces, applied]
      exact ih adds

end Rendering

theorem exists_span_of_mem_descriptionsIn {shown description : List Char}
    {spans : List StyledSpan} (listed : description ∈ descriptionsIn shown spans) :
    ∃ span ∈ spans, span.description = description := by
  unfold descriptionsIn at listed
  split at listed
  · exact List.mem_map.mp listed
  · obtain ⟨⟨start, stop⟩, _, listed⟩ := List.mem_flatMap.mp listed
    dsimp only at listed
    split at listed
    · cases listed
    · obtain ⟨span, within, described⟩ := List.mem_map.mp listed
      exact ⟨span, List.mem_of_mem_filter within, described⟩

/-- What a message is shown as, if it is shown. -/
theorem exists_rendering_of_renderMarkup {message text : String}
    (renders : renderMarkup message = .ok text) :
    ∃ rendering : Rendering,
      ({} : Rendering).addPieces (markupPieces 0 0 [] message.toList) = .ok rendering ∧
        text = String.ofList (expandTabs rendering.shown) := by
  unfold renderMarkup at renders
  obtain ⟨rendering, adds, renders⟩ := exceptBind_eq_ok_iff.mp renders
  obtain ⟨_, _, renders⟩ := exceptBind_eq_ok_iff.mp renders
  cases renders
  exact ⟨rendering, adds, rfl⟩

theorem forIn_eq_ok_of_passes {ε α : Type} {items : List α}
    {check : α → PUnit → Except ε (ForInStep PUnit)}
    (passes : ∀ item ∈ items, check item ⟨⟩ = .ok (.yield ⟨⟩)) :
    forIn items PUnit.unit check = .ok ⟨⟩ := by
  induction items with
  | nil => rfl
  | cons item items ih =>
    rw [List.forIn_cons, passes item List.mem_cons_self]
    exact ih fun other listed => passes other (List.mem_cons_of_mem _ listed)

/-- A message is shown if its tags are in order and its styles can be read. -/
theorem renderMarkup_of_addPieces {message : String} {rendering : Rendering}
    (adds : ({} : Rendering).addPieces (markupPieces 0 0 [] message.toList) = .ok rendering)
    (readable : ∀ span ∈ rendering.allSpans, ∀ fault,
      Style.read span.description ≠ .error (.notNumber fault)) :
    renderMarkup message = .ok (String.ofList (expandTabs rendering.shown)) := by
  have described : ∀ description ∈ descriptionsIn rendering.shown rendering.allSpans, ∀ fault,
      Style.read description ≠ .error (.notNumber fault) := by
    intro description listed
    obtain ⟨span, within, rfl⟩ := exists_span_of_mem_descriptionsIn listed
    exact readable span within
  unfold renderMarkup
  rw [adds]
  dsimp only [bind, Except.bind]
  rw [forIn_eq_ok_of_passes]
  · rfl
  · intro description listed
    split
    · rename_i fault faulty
      exact absurd faulty (described description listed fault)
    · rfl

end RunOnce.Command
