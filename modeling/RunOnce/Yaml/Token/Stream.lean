import RunOnce.Yaml.Token.Lexeme

/-!
# Token streams

Splits a text into tokens. Blocks are found by indentation: a deeper column
opens a block and a shallower one closes it. A scalar or a flow collection may
turn out to be a key when a colon follows it on the same line; until that is
settled it is a possible key, and the tokens from it on are held back.

When a text has a problem, the stream ends with it. The tokens before it are
those that were settled when the problem was met.
-/

namespace RunOnce.Yaml

/-- Something that may turn out to be a key. -/
structure PossibleKey where
  /-- The number of the token that starts it. -/
  number : Nat
  /-- Whether nothing else can stand here. -/
  required : Bool
  mark : Mark
deriving Repr

/-- The state of the splitting. -/
structure Scanner where
  cursor : Cursor
  /-- All tokens found so far, the latest first. -/
  found : List Token
  /-- How many tokens were found. -/
  count : Nat
  finished : Bool := false
  /-- The depth of flow collections. -/
  flowLevel : Nat := 0
  /-- The column of the innermost block, or -1 outside all blocks. -/
  indent : Int := -1
  /-- The columns of the blocks around it. -/
  outerIndents : List Int := []
  /-- Whether a key may start here. -/
  keyAllowed : Bool := true
  /-- The possible key of each flow level. -/
  possibleKeys : List (Nat × PossibleKey) := []

/-- A step of the splitting. -/
abbrev Scan := StateT Scanner (Except Error)

namespace Scan

/-- Run a reader at the cursor. -/
def lex {α : Type} (reader : Lex α) : Scan α := do
  let (result, cursor) ← (reader.run (← get).cursor : Except Error _)
  modify ({ · with cursor := cursor })
  return result

/-- The present position. -/
def mark : Scan Mark := do
  return (← get).cursor.mark

/-- Fail at the present position. -/
def fail {α : Type} (problem : Problem) : Scan α := do
  throw (.at problem (← mark))

/-- Add a token. -/
def push (token : Token) : Scan Unit :=
  modify fun scanner =>
    { scanner with found := token :: scanner.found, count := scanner.count + 1 }

/-- Add a token that takes up no characters. -/
def pushEmpty (kind : TokenKind) : Scan Unit := do
  let here ← mark
  push ⟨kind, here, here⟩

/-- Add a token of so many characters. -/
def pushFixed (kind : TokenKind) (count : Nat) : Scan Unit := do
  push (← lex do
    let start ← Lex.mark
    Lex.forward count
    Lex.token start kind)

/-- Whether a key may start after the next tokens. -/
def allowKey (allowed : Bool) : Scan Unit :=
  modify ({ · with keyAllowed := allowed })

/-- Whether the cursor is inside a flow collection. -/
def inFlow : Scan Bool := do
  return (← get).flowLevel != 0

/-! ## Possible keys -/

/-- Whether a possible key cannot become a key any more: it must end on the line
on which it starts, and within 1024 characters. -/
def isStale (here : Mark) (key : PossibleKey) : Bool :=
  key.mark.line != here.line || 1024 < here.index - key.mark.index

/-- Give up the possible keys that are stale. -/
def dropStaleKeys : Scan Unit := do
  let here ← mark
  let keys := (← get).possibleKeys
  if keys.any fun entry => isStale here entry.2 && entry.2.required then
    fail .colonMissing
  modify ({ · with possibleKeys := keys.filter fun entry => !isStale here entry.2 })

/-- Give up the possible key of the present flow level. -/
def dropKey : Scan Unit := do
  let scanner ← get
  match scanner.possibleKeys.find? fun entry => entry.1 == scanner.flowLevel with
  | none => pure ()
  | some (_, key) =>
    if key.required then
      fail .colonMissing
    modify ({ · with possibleKeys :=
      scanner.possibleKeys.filter fun entry => entry.1 != scanner.flowLevel })

/-- Note that the next token may start a key. -/
def saveKey : Scan Unit := do
  let scanner ← get
  let here ← mark
  let required := scanner.flowLevel == 0 && scanner.indent == (here.column : Int)
  if scanner.keyAllowed then
    dropKey
    let key : PossibleKey := ⟨scanner.count, required, here⟩
    modify fun scanner =>
      { scanner with possibleKeys := scanner.possibleKeys ++ [(scanner.flowLevel, key)] }

/-! ## Indentation -/

/-- Close the blocks that are deeper than a column. -/
def closeBlocks (column : Int) : Nat → Scan Unit
  | 0 => pure ()
  | bound + 1 => do
    let scanner ← get
    if column < scanner.indent then
      match scanner.outerIndents with
      | [] => pure ()
      | outer :: others =>
        set { scanner with indent := outer, outerIndents := others }
        pushEmpty .blockEnd
        closeBlocks column bound

/-- Close the blocks that end before a column. Flow collections pay no heed to
indentation. -/
def unwind (column : Int) : Scan Unit := do
  unless ← inFlow do
    closeBlocks column (← get).outerIndents.length

/-- Open a block at a column that is deeper than the innermost block. -/
def openBlock (column : Nat) : Scan Bool := do
  let scanner ← get
  if scanner.indent < column then
    set { scanner with
      indent := (column : Int), outerIndents := scanner.indent :: scanner.outerIndents }
    return true
  return false

/-! ## Tokens -/

/-- Go past blanks, comments and line breaks. Outside flow collections a key may
start on a new line. -/
def skipToToken : Nat → Scan Unit
  | 0 => pure ()
  | bound + 1 => do
    let found ← lex do
      Lex.skipSpaces
      Lex.skipComment
      return (← Lex.lineBreak).isEmpty
    unless found do
      unless ← inFlow do
        allowKey true
      skipToToken bound

/-- Go past a byte order mark at the start of the text. -/
def skipOrderMark : Scan Unit := do
  if (← mark).index == 0 then
    lex do
      if (← Lex.peek) == '\uFEFF' then
        Lex.forward 1

/-- The end of the text. -/
def fetchEnd : Scan Unit := do
  unwind (-1)
  dropKey
  allowKey false
  modify ({ · with possibleKeys := [], finished := true })
  pushEmpty .streamEnd

/-- A directive. -/
def fetchDirective : Scan Unit := do
  unwind (-1)
  dropKey
  allowKey false
  push (← lex lexDirective)

/-- The start or the end of a document. -/
def fetchMarker (kind : TokenKind) : Scan Unit := do
  unwind (-1)
  dropKey
  allowKey false
  pushFixed kind 3

/-- The start of a flow collection. -/
def fetchFlowStart (kind : TokenKind) : Scan Unit := do
  saveKey
  modify fun scanner => { scanner with flowLevel := scanner.flowLevel + 1 }
  allowKey true
  pushFixed kind 1

/-- The end of a flow collection. -/
def fetchFlowEnd (kind : TokenKind) : Scan Unit := do
  dropKey
  modify fun scanner => { scanner with flowLevel := scanner.flowLevel - 1 }
  allowKey false
  pushFixed kind 1

/-- A comma of a flow collection. -/
def fetchFlowEntry : Scan Unit := do
  allowKey true
  dropKey
  pushFixed .flowEntry 1

/-- Open a block that a dash, a question mark or a colon starts here. -/
def openHere (kind : TokenKind) (misplaced : Problem) : Scan Unit := do
  unless ← inFlow do
    unless (← get).keyAllowed do
      fail misplaced
    if ← openBlock (← mark).column then
      pushEmpty kind

/-- A dash of a block sequence. -/
def fetchBlockEntry : Scan Unit := do
  openHere .blockSequenceStart .sequenceEntryMisplaced
  allowKey true
  dropKey
  pushFixed .blockEntry 1

/-- A question mark. -/
def fetchKey : Scan Unit := do
  openHere .blockMappingStart .mappingKeyMisplaced
  allowKey (!(← inFlow))
  dropKey
  pushFixed .key 1

/-- Put tokens before the token of a number. -/
def insertAt (number : Nat) (inserted : List Token) : Scan Unit :=
  modify fun scanner =>
    let later := scanner.count - number
    { scanner with
      found := scanner.found.take later ++ inserted.reverse ++ scanner.found.drop later
      count := scanner.count + inserted.length }

/-- A colon: it makes the possible key of its level a key. -/
def fetchValue : Scan Unit := do
  let scanner ← get
  match scanner.possibleKeys.find? fun entry => entry.1 == scanner.flowLevel with
  | some (_, key) =>
    modify ({ · with possibleKeys :=
      scanner.possibleKeys.filter fun entry => entry.1 != scanner.flowLevel })
    let opened ←
      if scanner.flowLevel == 0 then openBlock key.mark.column else pure false
    let start := if opened then [⟨.blockMappingStart, key.mark, key.mark⟩] else []
    insertAt key.number (start ++ [⟨.key, key.mark, key.mark⟩])
    allowKey false
  | none =>
    openHere .blockMappingStart .mappingValueMisplaced
    allowKey (!(← inFlow))
    dropKey
  pushFixed .value 1

/-- A token that may start a key and is not followed by one. -/
def fetchLexeme (reader : Lex Token) : Scan Unit := do
  saveKey
  allowKey false
  push (← lex reader)

/-- A block scalar. -/
def fetchBlockScalar (folded : Bool) : Scan Unit := do
  allowKey true
  dropKey
  push (← lex (lexBlockScalar folded (← get).indent))

/-- A plain scalar; a key may follow when it ends with its line. -/
def fetchPlain : Scan Unit := do
  saveKey
  let (token, broken) ← lex (lexPlain (← inFlow) (← get).indent)
  allowKey broken
  push token

/-- Characters that have a meaning of their own where a token starts. -/
def isIndicator (c : Char) : Bool :=
  isBlankOrEnd c || "-?:,[]\x7b\x7d#&*!|>'\"%@".toList.contains c || c == '\x60'

/-- Whether a plain scalar starts here. -/
def atPlain (flow : Bool) : Lex Bool := do
  let c ← Lex.peek
  if isIndicator c then
    let next ← Lex.peekAt 1
    return !isBlankOrEnd next && (c == '-' || (!flow && (c == '?' || c == ':')))
  return true

/-- What starts at the next character. -/
inductive Opening
  | streamEnd
  | directive
  | documentStart
  | documentEnd
  | flowStart (kind : TokenKind)
  | flowEnd (kind : TokenKind)
  | flowEntry
  | blockEntry
  | key
  | value
  | anchored (kind : String → TokenKind)
  | tag
  | block (folded : Bool)
  | quoted (quote : Char)
  | plain
  | nothing (found : Char)

/-- What the next character opens by itself, or with what follows it. -/
def opening (flow : Bool) : Lex Opening := do
  let c ← Lex.peek
  let atMargin := (← Lex.mark).column == 0
  let blankFollows : Lex Bool := do return isBlankOrEnd (← Lex.peekAt 1)
  if c == endMark then return .streamEnd
  if c == '%' && atMargin then return .directive
  if c == '-' && atMargin then
    if ← Lex.atMarker '-' then return .documentStart
  if c == '.' && atMargin then
    if ← Lex.atMarker '.' then return .documentEnd
  match c with
  | '[' => return .flowStart .flowSequenceStart
  | '\x7b' => return .flowStart .flowMappingStart
  | ']' => return .flowEnd .flowSequenceEnd
  | '\x7d' => return .flowEnd .flowMappingEnd
  | ',' => return .flowEntry
  | '*' => return .anchored .aliasOf
  | '&' => return .anchored .anchor
  | '!' => return .tag
  | '\'' | '"' => return .quoted c
  | _ => pure ()
  if c == '-' then
    if ← blankFollows then return .blockEntry
  if c == '?' then
    if ← (if flow then pure true else blankFollows) then return .key
  if c == ':' then
    if ← (if flow then pure true else blankFollows) then return .value
  if c == '|' && !flow then return .block false
  if c == '>' && !flow then return .block true
  if ← atPlain flow then return .plain
  return .nothing c

/-- Find the next tokens. -/
def fetch : Scan Unit := do
  skipOrderMark
  skipToToken ((← get).cursor.rest.length + 1)
  dropStaleKeys
  unwind (← mark).column
  match ← lex (opening (← inFlow)) with
  | .streamEnd => fetchEnd
  | .directive => fetchDirective
  | .documentStart => fetchMarker .documentStart
  | .documentEnd => fetchMarker .documentEnd
  | .flowStart kind => fetchFlowStart kind
  | .flowEnd kind => fetchFlowEnd kind
  | .flowEntry => fetchFlowEntry
  | .blockEntry => fetchBlockEntry
  | .key => fetchKey
  | .value => fetchValue
  | .anchored kind => fetchLexeme (lexAnchor kind)
  | .tag => fetchLexeme lexTag
  | .block folded => fetchBlockScalar folded
  | .quoted quote => fetchLexeme (lexQuoted quote)
  | .plain => fetchPlain
  | .nothing found => fail (.cannotStart found)

end Scan

/-- The tokens in order. -/
def Scanner.tokens (scanner : Scanner) : List Token :=
  scanner.found.reverse

/-- The tokens that no possible key holds back. -/
def Scanner.settled (scanner : Scanner) : List Token :=
  scanner.possibleKeys.foldl (fun tokens entry => tokens.take entry.2.number) scanner.tokens

/-- Tokens, and the problem that ends them if there is one. -/
structure TokenStream where
  tokens : List Token
  error? : Option Error := none

/-- A step of the splitting, with the possible keys that it makes stale. -/
def Scan.step : Scan Unit := do
  fetch
  unless (← get).finished do
    dropStaleKeys

/-- Split the text from a state on. Every step goes past at least one
character, so the length of the text bounds the number of steps. -/
def Scanner.run (scanner : Scanner) : Nat → TokenStream
  | 0 => ⟨scanner.tokens, none⟩
  | bound + 1 =>
    if scanner.finished then ⟨scanner.tokens, none⟩
    else
      match Scan.step.run scanner with
      | .ok (_, next) => next.run bound
      | .error problem => ⟨scanner.settled, some problem⟩

/-- The tokens of a document. An obstacle at its start is met before any
token. -/
def TokenStream.ofCharacters (characters : Characters) : Except Error TokenStream :=
  let start : Mark := ⟨0, 0, 0⟩
  let cursor : Cursor := ⟨characters.content, start, characters.obstacle?⟩
  match cursor.met? 0 with
  | some error => .error error
  | none =>
    let scanner : Scanner := { cursor, found := [⟨.streamStart, start, start⟩], count := 1 }
    .ok (scanner.run (characters.content.length + 2))

end RunOnce.Yaml
