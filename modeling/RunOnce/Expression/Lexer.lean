import RunOnce.Expression.NumberLiteral
import RunOnce.Expression.Token
import RunOnce.Text.Identifier
import RunOnce.Text.Printable

/-!
# Cutting expressions into tokens

Tokens are cut off a text one at a time, as they are asked for. Outside of
brackets the margin of each line counts: a wider one than before indents what
follows, and a narrower one must be one of those around it. A backslash at the
end of a line joins it with the next one.

The cutting stops at the first fault. Some faults are told only if somebody asks
for the token, others also when the rest of a text is looked through after
another fault.
-/

namespace RunOnce.Expression

open RunOnce.Text

/-- The width of the blanks before a line. -/
structure Margin where
  /-- With a tab that goes to the next multiple of eight. -/
  columns : Nat := 0
  /-- With a tab that counts as one column. -/
  narrow : Nat := 0
deriving DecidableEq, Repr

/-- A bracket that is open. -/
structure Bracket where
  sign : Char
  line : Nat
deriving DecidableEq, Repr

/-- Why no further token is cut off. -/
inductive Stop
  | fault (fault : Fault)
  /-- The text has ended inside brackets or after a backslash. -/
  | ended
  | strayBackslash
  | unevenMargin
deriving DecidableEq, Repr

/-- A text of which some tokens are cut off. -/
structure Lexer where
  rest : List Char
  /-- The line of the last character that was looked at. -/
  line : Nat := 0
  /-- Whether the next character is on a line of which nothing was looked at. -/
  isLineNew : Bool := true
  /-- Whether the margin of a line comes next. -/
  atMargin : Bool := true
  /-- The margins around this line, the innermost first. -/
  margins : List Margin := []
  /-- The indents that are not given out yet, or the dedents as a negative
  number. -/
  pending : Int := 0
  /-- The open brackets, the innermost first. -/
  brackets : List Bracket := []
  /-- Whether the end was looked at. -/
  isEnded : Bool := false
deriving DecidableEq, Repr

namespace Lexer

/-- The most brackets that may be open at once. -/
def maxBrackets : Nat := 200

/-- The most margins that may be around a line, the left edge included. -/
def maxMargins : Nat := 100

/-- What cuts tokens off a text. The state at a stop is kept. -/
abbrev Lex := EStateM Stop Lexer

/-- The line that the next character is on. -/
def nextLine (line : Nat) (rest : List Char) : Nat :=
  if rest.isEmpty then line else line + 1

/-- Look at the next character. -/
def look : Lex Unit :=
  modify fun lexer =>
    if lexer.isLineNew && !lexer.rest.isEmpty then
      { lexer with line := lexer.line + 1, isLineNew := false }
    else lexer

/-! ## Margins and blanks -/

/-- A margin that is being read. -/
structure MarginReading where
  margin : Margin := {}
  /-- The columns before the first backslash, if there were any. -/
  split : Nat := 0
  line : Nat
deriving DecidableEq, Repr

/-- Read the margin of a line, and what follows it. -/
def readMargin (reading : MarginReading) : List Char → Except Stop (MarginReading × List Char)
  | ' ' :: rest =>
    readMargin { reading with
      margin := ⟨reading.margin.columns + 1, reading.margin.narrow + 1⟩ } rest
  | '\t' :: rest =>
    readMargin { reading with
      margin := ⟨(reading.margin.columns / 8 + 1) * 8, reading.margin.narrow + 1⟩ } rest
  | '\x0c' :: rest => readMargin { reading with margin := {} } rest
  | '\\' :: '\n' :: rest =>
    if rest.isEmpty then .error .ended
    else
      readMargin { reading with
        split := if reading.split = 0 then reading.margin.columns else reading.split
        line := reading.line + 1 } rest
  | '\\' :: _ => .error .strayBackslash
  | rest => .ok (reading, rest)

/-- The margin that counts after a reading. -/
def MarginReading.result (reading : MarginReading) : Margin :=
  if reading.split = 0 then reading.margin else ⟨reading.split, reading.split⟩

/-- Leave the margins that are wider than a given number of columns, and count
them. -/
def leaveMargins (columns : Nat) : List Margin → Nat × List Margin
  | [] => (0, [])
  | margin :: outer =>
    if columns < margin.columns then
      let (left, kept) := leaveMargins columns outer
      (left + 1, kept)
    else (0, margin :: outer)

/-- Compare the margin of a line with those around it. -/
def setMargin (margin : Margin) : Lex Unit := do
  let lexer ← get
  let current := lexer.margins.head?.getD {}
  if margin.columns = current.columns then
    if margin.narrow ≠ current.narrow then throw .unevenMargin
  else if current.columns < margin.columns then
    if maxMargins ≤ lexer.margins.length + 1 ∨ margin.narrow ≤ current.narrow then
      throw .unevenMargin
    set { lexer with margins := margin :: lexer.margins, pending := lexer.pending + 1 }
  else
    let (left, kept) := leaveMargins margin.columns lexer.margins
    if margin ≠ kept.head?.getD {} then throw .unevenMargin
    set { lexer with margins := kept, pending := lexer.pending - left }

/-- Pass the margin of a line, if it comes next, and say whether the line holds
nothing. -/
def passMargin : Lex Bool := do
  look
  let lexer ← get
  if lexer.atMargin then
    let (reading, rest) ← match readMargin { line := lexer.line } lexer.rest with
      | .ok read => pure read
      | .error stop => throw stop
    set { lexer with
      rest := rest, line := reading.line, atMargin := false,
      isEnded := lexer.isEnded || rest.isEmpty }
    let isBlank := rest.head? == some '#' || rest.head? == some '\n'
    if !isBlank && lexer.brackets.isEmpty then setMargin reading.result
    pure isBlank
  else pure false

/-- What follows blanks and joined lines, and the line that it is on. -/
def afterBlanks (line : Nat) : List Char → Except Stop (Nat × List Char)
  | ' ' :: rest | '\t' :: rest | '\x0c' :: rest => afterBlanks line rest
  | '\\' :: '\n' :: rest => if rest.isEmpty then .error .ended else afterBlanks (line + 1) rest
  | '\\' :: _ => .error .strayBackslash
  | rest => .ok (line, rest)

/-- Pass blanks, joined lines and a comment. -/
def passBlanks : Lex Unit := do
  let lexer ← get
  match afterBlanks lexer.line lexer.rest with
  | .error stop => throw stop
  | .ok (line, rest) =>
    let rest := if rest.head? == some '#' then rest.dropWhile (· ≠ '\n') else rest
    set { lexer with rest := rest, line := line, isEnded := lexer.isEnded || rest.isEmpty }

/-! ## Tokens -/

/-- Cut off a token of some characters. The character after it is looked at,
unless the token could not be longer. -/
def cut (kind : TokenKind) (written rest : List Char) : Lex Token := do
  let lexer ← get
  let isFull := kind = .sign && written.length = 3
  set { lexer with rest := rest, isEnded := rest.isEmpty && !isFull }
  pure ⟨kind, written, lexer.brackets.length, lexer.line⟩

/-- Cut off the characters before a rest of the text. -/
def cutBefore (kind : TokenKind) (rest : List Char) : Lex Token := do
  let before := (← get).rest
  cut kind (before.take (before.length - rest.length)) rest

/-- What follows a text after its opening quote, and the line that it ends on;
or the line on which the end is missing. -/
def afterQuote (quote : Char) (line : Nat) : List Char → Except Nat (Nat × List Char)
  | [] => .error line
  | '\n' :: _ => .error line
  | '\\' :: '\n' :: rest => afterQuote quote (nextLine line rest) rest
  | '\\' :: _ :: rest => afterQuote quote line rest
  | c :: rest => if c = quote then .ok (line, rest) else afterQuote quote line rest

/-- The same for a text with three quotes on each side. -/
def afterTripleQuote (quote : Char) (line : Nat) : List Char → Except Nat (Nat × List Char)
  | [] => .error line
  | '\n' :: rest => afterTripleQuote quote (nextLine line rest) rest
  | '\\' :: '\n' :: rest => afterTripleQuote quote (nextLine line rest) rest
  | '\\' :: _ :: rest => afterTripleQuote quote line rest
  | c :: rest =>
    if c = quote ∧ rest.take 2 = [quote, quote] then .ok (line, rest.drop 2)
    else afterTripleQuote quote line rest

/-- Cut off a quoted text, given what follows its opening quote. -/
def cutText (quote : Char) (opened : List Char) : Lex Token := do
  let lexer ← get
  let isTriple := opened.take 2 == [quote, quote]
  let after :=
    if isTriple then afterTripleQuote quote lexer.line (opened.drop 2)
    else afterQuote quote lexer.line opened
  match after with
  | .error line => throw (.fault (.unterminated isTriple line))
  | .ok (line, rest) =>
    let token ← cutBefore .text rest
    let isEmpty := !isTriple && opened.head? == some quote
    modify fun lexer => { lexer with line := line, isEnded := rest.isEmpty && isEmpty }
    pure token

/-- The letters that may stand right before a quote, in any case. -/
def quoteMarks : List String :=
  ["r", "u", "b", "f", "br", "rb", "fr", "rf"]

/-- Cut off a name or a word of the grammar, or a text with letters before its
quote. -/
def cutWord : Lex Token := do
  let rest := (← get).rest
  let word := rest.takeWhile looksLikeNamePart
  let after := rest.drop word.length
  match after with
  | quote :: opened =>
    if (quote == '\'' || quote == '"') && quoteMarks.contains (String.ofList word).toLower then
      return ← cutText quote opened
  | [] => pure ()
  if word.any fun c => 128 ≤ c.toNat then
    if let some c := identifierObstacle? word then
      throw (.fault (if isPrintable c then .strayCharacter c else .unprintable c))
  cut (wordKind word) word after

/-- Cut off a number. -/
def cutNumber : Lex Token := do
  match afterNumber (← get).rest with
  | .ok rest => cutBefore .number rest
  | .error fault => throw (.fault fault)

/-- The bracket that closes what a bracket opens. -/
def closingOf : Char → Char
  | '(' => ')'
  | '\x7b' => '\x7d'
  | _ => ']'

/-- Keep account of the open brackets. -/
def passBracket (c : Char) : Lex Unit := do
  let lexer ← get
  if c == '(' || c == '\x7b' || c == '[' then
    if maxBrackets ≤ lexer.brackets.length then throw (.fault .tooManyBrackets)
    set { lexer with brackets := ⟨c, lexer.line⟩ :: lexer.brackets }
  else if c == ')' || c == '\x7d' || c == ']' then
    match lexer.brackets with
    | [] => throw (.fault (.unmatched c))
    | bracket :: outer =>
      set { lexer with brackets := outer }
      if closingOf bracket.sign ≠ c then
        let line? := if bracket.line = lexer.line then none else some bracket.line
        throw (.fault (.mismatched c bracket.sign line?))

/-- Cut off a sign. -/
def cutSign (c : Char) : Lex Token := do
  let rest := (← get).rest
  let sign := signAt rest
  if sign.length = 1 then
    passBracket c
    if !isPrintable c then throw (.fault (.unprintable c))
  cut .sign sign (rest.drop sign.length)

/-- Cut off the next token, after its blanks. -/
def cutToken (c : Char) (rest : List Char) : Lex Token :=
  if looksLikeName c then cutWord
  else if c.isDigit || (c == '.' && atDigit rest) then cutNumber
  else if c == '.' then
    if rest.take 2 == ['.', '.'] then cut .sign ['.', '.', '.'] (rest.drop 2)
    else cut .sign ['.'] rest
  else if c == '\'' || c == '"' then cutText c rest
  else cutSign c

/-- Cut off the next token. Lines that hold nothing, and line ends in brackets,
are passed; each of these takes a character off, so the number of characters
bounds the steps. -/
def nextWithin : Nat → Lex Token
  | 0 => throw .ended
  | bound + 1 => do
    let isBlank ← passMargin
    let lexer ← get
    let level := lexer.brackets.length
    if lexer.pending < 0 then
      set { lexer with pending := lexer.pending + 1 }
      pure ⟨.dedent, [], level, lexer.line⟩
    else if 0 < lexer.pending then
      set { lexer with pending := lexer.pending - 1 }
      pure ⟨.indent, [], level, lexer.line⟩
    else
      passBlanks
      let lexer ← get
      match lexer.rest with
      | [] => if level = 0 then pure ⟨.ending, [], level, lexer.line⟩ else throw .ended
      | '\n' :: rest =>
        set { lexer with rest := rest, atMargin := true, isLineNew := true }
        if isBlank || 0 < level then nextWithin bound else pure ⟨.newline, [], level, lexer.line⟩
      | c :: rest => cutToken c rest

/-- Cut off the next token. -/
def next : Lex Token := do
  nextWithin ((← get).rest.length + 1)

/-- The fault of a stop. -/
def stopFault (lexer : Lexer) : Stop → Fault
  | .fault fault => fault
  | .ended =>
    match lexer.brackets with
    | bracket :: _ => .neverClosed bracket.sign
    | [] => .endMissing
  | .strayBackslash => .strayBackslash
  | .unevenMargin => .unevenMargin

/-- A fault in the rest of a text, of which some tokens up to a line were looked
at. A bracket that is never closed counts only if it was opened before that
line; the second component says whether it is that. -/
def laterFault? (line : Nat) : Nat → Lexer → Option (Fault × Bool)
  | 0, _ => none
  | bound + 1, lexer =>
    match next lexer with
    | .ok token lexer => if token.kind = .ending then none else laterFault? line bound lexer
    | .error (.fault fault) _ => some (fault, false)
    | .error _ lexer =>
      match lexer.brackets with
      | bracket :: _ => if bracket.line < line then some (.neverClosed bracket.sign, true) else none
      | [] => none

end Lexer

end RunOnce.Expression
