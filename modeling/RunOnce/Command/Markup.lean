import RunOnce.Command.ActionValue
import RunOnce.Command.Style
import RunOnce.Text.Emoji
import RunOnce.Text.Quoted

/-!
# Markup

Messages are written with markup: a tag in brackets opens a style, a tag with a
slash closes one. On a plain stream the tags disappear and the text between
them stays. A backslash before a tag makes it text. A tag that closes a style
must find one that is open; a tag that opens an action may give it a value,
which is checked when the tag is closed. In the text, names of emoji are
replaced.
-/

namespace RunOnce.Command

open RunOnce.Text

/-- A part of a message. A tag has the position at which it starts. -/
inductive MarkupPiece
  | text (characters : List Char)
  | tag (position : Nat) (content : List Char)
deriving DecidableEq, Repr

/-- What is wrong with the tags of a message. -/
inductive MarkupError
  /-- A closing tag of whose name no style is open. -/
  | unmatched (content : String) (position : Nat)
  /-- A closing tag while no style is open. -/
  | nothingOpen (position : Nat)
  /-- An action with a value that is refused. -/
  | badValue (value : List Char) (refusal : Expression.Refusal)
  /-- A part of a colour that is no number. -/
  | badColour (fault : Number.IntegerFault)
deriving DecidableEq, Repr

/-- The message of a markup error. -/
def MarkupError.message : MarkupError → String
  | unmatched content position =>
    "closing tag '[" ++ content ++ "]' at position " ++ toString position ++
      " doesn't match any open tag"
  | nothingOpen position =>
    "closing tag '[/]' at position " ++ toString position ++ " has nothing to close"
  | badValue value refusal => ActionValue.message value refusal
  | badColour fault => fault.message

/-- Whether a tag may start with a character. -/
def startsTag (c : Char) : Bool :=
  ('a' ≤ c && c ≤ 'z') || c == '#' || c == '/' || c == '@'

/-- Read the content of a tag after its opening bracket, and what follows the
tag. A tag holds no bracket. -/
def readTag? : List Char → Option (List Char × List Char)
  | [] => none
  | first :: rest =>
    if startsTag first then
      let inside := rest.takeWhile fun c => c != '[' && c != ']'
      match rest.drop inside.length with
      | ']' :: after => some (first :: inside, after)
      | _ => none
    else none

/-- What follows a tag is shorter than what it was read from. -/
theorem readTag?_length {cs content after : List Char} (read : readTag? cs = some (content, after)) :
    after.length < cs.length := by
  cases cs with
  | nil => simp [readTag?] at read
  | cons first rest =>
    simp only [readTag?] at read
    split at read
    · split at read
      · rename_i tail rest_eq
        obtain ⟨_, rfl⟩ := Prod.mk.inj (Option.some.inj read)
        have lengths := congrArg List.length rest_eq
        simp only [List.length_drop, List.length_cons] at lengths
        simp only [List.length_cons]
        omega
      · exact absurd read (by simp)
    · exact absurd read (by simp)

/-- A piece of text, unless it is empty. -/
def textPiece (characters : List Char) : List MarkupPiece :=
  if characters.isEmpty then [] else [.text characters]

/-- Cut a message into text and tags. The text before the rest is carried along
backwards, and so is the number of backslashes between the two: of those before
a tag each pair stands for one, and a last single one turns the tag into
text. -/
def markupPieces (position slashes : Nat) (before cs : List Char) : List MarkupPiece :=
  let slashed := List.replicate slashes '\\'
  match cs with
  | [] => textPiece (before.reverse ++ slashed)
  | '\\' :: rest => markupPieces (position + 1) (slashes + 1) before rest
  | '[' :: rest =>
    match read : readTag? rest with
    | some (content, after) =>
      have := readTag?_length read
      let kept := textPiece before.reverse ++ textPiece (List.replicate (slashes / 2) '\\')
      let next := markupPieces (position + content.length + 2) 0 [] after
      if slashes % 2 = 1 then kept ++ .text ('[' :: content ++ [']']) :: next
      else kept ++ .tag position content :: next
    | none => markupPieces (position + 1) 0 ('[' :: slashed ++ before) rest
  | c :: rest => markupPieces (position + 1) 0 (c :: slashed ++ before) rest
termination_by cs.length
decreasing_by all_goals simp_all; try omega

/-- Leave out the backslash before a bracket that opens no tag. -/
def unescape : List Char → List Char
  | [] => []
  | '\\' :: '[' :: rest => '[' :: unescape rest
  | c :: rest => c :: unescape rest

/-- Control characters that are not shown. -/
def isHidden (c : Char) : Bool :=
  c == '\x07' || c == '\x08' || c == '\x0b' || c == '\x0c' || c == '\r'

/-- A piece of text as it is shown. -/
def shownText (characters : List Char) : List Char :=
  (Emoji.replace (unescape characters)).filter fun c => !isHidden c

/-- A style that is open. -/
structure OpenStyle where
  name : String
  /-- What its tag gives after an equals sign. -/
  value : Option (List Char)
  /-- How many characters are shown before it. -/
  start : Nat
deriving DecidableEq, Repr

namespace OpenStyle

/-- Whether a style is an action. -/
def isAction (style : OpenStyle) : Bool :=
  style.name.front == '@'

/-- What is wrong with the value of a style that is closed. Only actions have
values that are checked. -/
def error? (style : OpenStyle) : Option MarkupError :=
  match style.value with
  | none | some [] => none
  | some value =>
    if style.isAction then (ActionValue.refusal? value).map (.badValue value) else none

/-- The description of a style, to which its value belongs. -/
def description (style : OpenStyle) : List Char :=
  match style.value with
  | none => style.name.toList
  | some value => style.name.toList ++ ' ' :: value

end OpenStyle

/-- A stretch of the shown text, with the description of its style. -/
structure StyledSpan where
  start : Nat
  stop : Nat
  description : List Char
deriving DecidableEq, Repr

/-- A message of which some pieces are rendered. -/
structure Rendering where
  shown : List Char := []
  /-- The styles that are open, the last one first. -/
  opened : List OpenStyle := []
  /-- The spans of the styles that were closed, the last one first. -/
  spans : List StyledSpan := []
deriving DecidableEq, Repr

/-- Take the last open style of a name out of the open styles, which are listed
from the last one on. -/
def closeStyle? (name : String) : List OpenStyle → Option (OpenStyle × List OpenStyle)
  | [] => none
  | opened :: others =>
    if opened.name = name then some (opened, others)
    else (closeStyle? name others).map fun (closed, others) => (closed, opened :: others)

/-- The name that a style goes by. -/
def styleName (cs : List Char) : Except MarkupError String :=
  match Style.canonical cs with
  | .ok name => .ok name
  | .error (.notNumber fault) => .error (.badColour fault)
  | .error .notStyle => .ok (lower (String.ofList (trim cs)))

namespace Rendering

/-- The span of an open style that ends here. -/
def spanOf (rendering : Rendering) (style : OpenStyle) : StyledSpan :=
  ⟨style.start, rendering.shown.length, style.description⟩

/-- Close a style, with what others are open then. The value of an action is no
part of a description. -/
def close (rendering : Rendering) (closed : OpenStyle) (others : List OpenStyle) :
    Except MarkupError Rendering :=
  match closed.error? with
  | some error => .error error
  | none =>
    let spans := if closed.isAction then [] else [rendering.spanOf closed]
    .ok { rendering with opened := others, spans := spans ++ rendering.spans }

/-- What a tag makes of a message. -/
def applyTag (rendering : Rendering) (position : Nat) (content : List Char) :
    Except MarkupError Rendering := do
  let name := content.takeWhile (· ≠ '=')
  match name with
  | '/' :: closing =>
    if (trim closing).isEmpty then
      match rendering.opened with
      | [] => throw (.nothingOpen position)
      | closed :: others => rendering.close closed others
    else
      match closeStyle? (← styleName (trim closing)) rendering.opened with
      | none => throw (.unmatched (String.ofList content) position)
      | some (closed, others) => rendering.close closed others
  | _ =>
    let value := if name.length < content.length then some (content.drop (name.length + 1)) else none
    let style := ⟨← styleName name, value, rendering.shown.length⟩
    pure { rendering with opened := style :: rendering.opened }

/-- Render pieces after others. -/
def addPieces (rendering : Rendering) : List MarkupPiece → Except MarkupError Rendering
  | [] => .ok rendering
  | .text characters :: rest =>
    addPieces { rendering with shown := rendering.shown ++ shownText characters } rest
  | .tag position content :: rest => do
    (← rendering.applyTag position content).addPieces rest

/-- All spans, those of styles that are never closed included, by the place
where they start. Of those that start together the one that was opened or
closed last is first. -/
def allSpans (rendering : Rendering) : List StyledSpan :=
  let unclosed := rendering.opened.map rendering.spanOf
  (unclosed.reverse ++ rendering.spans).mergeSort fun a b => a.start ≤ b.start

end Rendering

/-- The positions at which the parts of a text end that are styled one by one.
A part ends after a tab and on both sides of a line feed. -/
def partEnds (position : Nat) : List Char → List Nat
  | [] => [position]
  | '\n' :: rest => position :: (position + 1) :: partEnds (position + 1) rest
  | '\t' :: rest => (position + 1) :: partEnds (position + 1) rest
  | _ :: rest => partEnds (position + 1) rest

/-- Whether a text is styled as a whole. -/
def isSinglePart (shown : List Char) : Bool :=
  shown.all fun c => c != '\n' && c != '\t'

/-- The descriptions of styles in the order in which they are looked at. Each
part of a text has the spans that share a character with it, except that a line
feed has none; a text that is styled as a whole has all of them. -/
def descriptionsIn (shown : List Char) (spans : List StyledSpan) : List (List Char) :=
  if isSinglePart shown then spans.map (·.description)
  else
    let ends := partEnds 0 shown
    ((0 :: ends).zip ends).flatMap fun (start, stop) =>
      if (shown.drop start).head? == some '\n' then []
      else (spans.filter fun span => max start span.start < min stop span.stop).map (·.description)

/-- A message as a plain stream shows it. -/
def renderMarkup (message : String) : Except MarkupError String := do
  let rendering ← ({} : Rendering).addPieces (markupPieces 0 0 [] message.toList)
  for description in descriptionsIn rendering.shown rendering.allSpans do
    if let .error (.notNumber fault) := Style.read description then throw (.badColour fault)
  pure (String.ofList (expandTabs rendering.shown))

end RunOnce.Command
