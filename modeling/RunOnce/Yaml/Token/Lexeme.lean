import RunOnce.Yaml.Cursor
import RunOnce.Yaml.Token

/-!
# Lexemes

Reads the tokens whose text varies: directives, anchors, aliases, tags, and
block, quoted and plain scalars.
-/

namespace RunOnce.Yaml

open RunOnce.Text

/-- Reads part of a text, moving a cursor. -/
abbrev Lex := StateT Cursor (Except Error)

namespace Lex

/-- Ask for the characters up to some places ahead. -/
def need (ahead : Nat) : Lex Unit := do
  match (← get).met? ahead with
  | some error => throw error
  | none => pure ()

/-- The next character. -/
def peek : Lex Char := do
  need 0
  return (← get).peek

/-- The character some places ahead. -/
def peekAt (ahead : Nat) : Lex Char := do
  need ahead
  return (← get).peekAt ahead

/-- Whether some characters come next. -/
def startsWith (characters : List Char) : Lex Bool := do
  need (characters.length - 1)
  return characters.isPrefixOf (← get).rest

/-- The present position. -/
def mark : Lex Mark := do
  return (← get).mark

/-- Go past several characters. The one after them is asked for. -/
def forward (count : Nat) : Lex Unit := do
  need count
  modify (Cursor.forward count)

/-- Read the characters that satisfy a test. -/
def takeWhile (test : Char → Bool) : Lex (List Char) := do
  let characters := (← get).run test
  forward characters.length
  return characters

/-- Go past the characters that satisfy a test. -/
def skip (test : Char → Bool) : Lex Unit := do
  let _ ← takeWhile test

/-- Go past spaces. -/
def skipSpaces : Lex Unit :=
  skip (· == ' ')

/-- Go past a comment. -/
def skipComment : Lex Unit := do
  if (← peek) == '#' then
    skip fun c => !isBreakOrEnd c

/-- Read one line break, which counts as a line feed unless it is a separator. -/
def lineBreak : Lex (List Char) := do
  let c ← peek
  if c == '\n' || c == '\r' || c == '\u0085' then
    if ← startsWith ['\r', '\n'] then
      forward 2
    else
      forward 1
    return ['\n']
  else if c == '\u2028' || c == '\u2029' then
    forward 1
    return [c]
  else return []

/-- Whether a marker made of three of the given characters is next. -/
def atMarker (c : Char) : Lex Bool := do
  if ← startsWith [c, c, c] then
    return isBlankOrEnd (← peekAt 3)
  return false

/-- Whether a document starts or ends here. -/
def atSeparator : Lex Bool := do
  if ← atMarker '-' then
    return true
  atMarker '.'

/-- Fail at the present position. -/
def fail {α : Type} (problem : Problem) : Lex α := do
  throw (.at problem (← mark))

/-- Fail because the next character is not what it should be. -/
def expected {α : Type} (what : Expectation) : Lex α := do
  fail (.expected what (← peek))

/-- The token that starts at a position, ends here and has a kind. -/
def token (start : Mark) (kind : TokenKind) : Lex Token := do
  return ⟨kind, start, ← mark⟩

end Lex

open RunOnce.Yaml.Lex

/-! ## Directives, anchors and tags -/

/-- Go past the rest of a line that may only hold a comment. -/
def lexIgnoredLine : Lex Unit := do
  skipSpaces
  skipComment
  unless isBreakOrEnd (← peek) do
    expected .commentOrBreak
  let _ ← lineBreak

/-- Read the name of a directive. -/
def lexDirectiveName : Lex String := do
  let name ← takeWhile isWordChar
  if name.isEmpty || !isSpaceOrEnd (← peek) then
    expected .alphanumeric
  return String.ofList name

/-- Read a number of a version, which has a limit to its digits. -/
def lexVersionNumber : Lex Nat := do
  let digits := (← get).run Char.isDigit
  need digits.length
  if digits.isEmpty then
    expected .digit
  if Number.maxDigits < digits.length then
    throw (.unreadable (.notInteger (.tooManyDigits digits.length)))
  forward digits.length
  return ofDigits 10 (digits.map fun c => c.toNat - '0'.toNat)

/-- Read the version that a directive gives. -/
def lexVersion : Lex Directive := do
  skipSpaces
  let major ← lexVersionNumber
  unless (← peek) == '.' do
    expected .digitOrPoint
  forward 1
  let minor ← lexVersionNumber
  unless isSpaceOrEnd (← peek) do
    expected .digitOrSpace
  return .version major minor

/-- Read a tag handle. -/
def lexTagHandle : Lex String := do
  unless (← peek) == '!' do
    expected .bang
  forward 1
  if (← peek) == ' ' then
    return "!"
  let word ← takeWhile isWordChar
  unless (← peek) == '!' do
    expected .bang
  forward 1
  return String.ofList ('!' :: word ++ ['!'])

/-- Characters of a tag, the percent sign apart. -/
def isUriChar (c : Char) : Bool :=
  c.isAlphanum || "-;/?:@&=+$,_.!~*'()[]".toList.contains c

/-- Read the bytes of percent escapes. -/
def lexUriEscapes : Nat → Lex (List Nat)
  | 0 => return []
  | bound + 1 => do
    if (← peek) == '%' then
      forward 1
      match asciiDigitValue? 16 (← peek) with
      | none => expected .uriHex
      | some high =>
        match asciiDigitValue? 16 (← peekAt 1) with
        | none => fail (.expected .uriHex (← peekAt 1))
        | some low =>
          forward 2
          return (16 * high + low) :: (← lexUriEscapes bound)
    else return []

/-- Read the parts of a tag's text. -/
def lexUriParts : Nat → Lex (List Char)
  | 0 => return []
  | bound + 1 => do
    let part ← takeWhile isUriChar
    if (← peek) == '%' then
      let start ← mark
      let bytes ← lexUriEscapes (← get).rest.length
      match Utf8.decode (bytes.map Nat.toUInt8) with
      | .ok decoded => return part ++ decoded.toList ++ (← lexUriParts bound)
      | .error fault => throw (.at (.undecodableUri fault) start)
    else return part

/-- Read the text of a tag. -/
def lexUri : Lex String := do
  let characters ← lexUriParts ((← get).rest.length + 1)
  if characters.isEmpty then
    expected .uri
  return String.ofList characters

/-- Read the handle and the text that a directive binds together. -/
def lexTagDirective : Lex Directive := do
  skipSpaces
  let handle ← lexTagHandle
  unless (← peek) == ' ' do
    expected .space
  skipSpaces
  let stem ← lexUri
  unless isSpaceOrEnd (← peek) do
    expected .space
  return .tag handle stem

/-- Read a directive. -/
def lexDirective : Lex Token := do
  let start ← mark
  forward 1
  let name ← lexDirectiveName
  let content ←
    if name = "YAML" then lexVersion
    else if name = "TAG" then lexTagDirective
    else pure (.other name)
  let token ← token start (.directive content)
  match content with
  | .other _ => skip fun c => !isBreakOrEnd c
  | _ => pure ()
  lexIgnoredLine
  return token

/-- Characters that may follow the name of an anchor. -/
def endsAnchor (c : Char) : Bool :=
  isBlankOrEnd c || "?:,]\x7d%@".toList.contains c || c == '\x60'

/-- Read an anchor or an alias. -/
def lexAnchor (kind : String → TokenKind) : Lex Token := do
  let start ← mark
  forward 1
  let name ← takeWhile isWordChar
  if name.isEmpty || !endsAnchor (← peek) then
    expected .alphanumeric
  token start (kind (String.ofList name))

/-- Read a tag. -/
def lexTag : Lex Token := do
  let start ← mark
  let next ← peekAt 1
  let kind ←
    if next == '<' then do
      forward 2
      let suffix ← lexUri
      unless (← peek) == '>' do
        expected .closingAngle
      forward 1
      pure (TokenKind.tag none suffix)
    else if isBlankOrEnd next then do
      forward 1
      pure (TokenKind.tag none "!")
    else do
      let ahead := (← get).advance.run fun c => !isSpaceOrEnd c && c != '!'
      let handle ←
        if (← peekAt (ahead.length + 1)) == '!' then lexTagHandle
        else do
          forward 1
          pure "!"
      let suffix ← lexUri
      pure (TokenKind.tag (some handle) suffix)
  unless isSpaceOrEnd (← peek) do
    expected .space
  token start kind

/-! ## Block scalars -/

/-- What happens to the line breaks at the end of a block scalar. -/
inductive Chomping
  | clip
  | strip
  | keep
deriving DecidableEq, Repr

/-- Read an indicator of chomping. -/
def lexChomping : Lex Chomping := do
  match ← peek with
  | '+' =>
    forward 1
    return .keep
  | '-' =>
    forward 1
    return .strip
  | _ => return .clip

/-- Read an indicator of indentation. -/
def lexIncrement : Lex (Option Nat) := do
  let c ← peek
  if c.isDigit then
    if c == '0' then
      fail .zeroIndentation
    forward 1
    return some (c.toNat - '0'.toNat)
  return none

/-- Read the indicators of a block scalar, in either order. -/
def lexBlockIndicators : Lex (Chomping × Option Nat) := do
  let early ← lexChomping
  let increment ← lexIncrement
  let chomping ←
    if early = .clip && increment.isSome then lexChomping else pure early
  unless isSpaceOrEnd (← peek) do
    expected .blockIndicator
  return (chomping, increment)

/-- Read the blank lines before a block scalar whose indentation is not given:
their line breaks, and the greatest column reached. -/
def lexBlockIndentation : Nat → Nat → Mark → Lex (List Char × Nat × Mark)
  | 0, widest, stop => return ([], widest, stop)
  | bound + 1, widest, stop => do
    let c ← peek
    if c == ' ' then
      forward 1
      lexBlockIndentation bound (max widest (← mark).column) stop
    else if isBreak c then
      let first ← lineBreak
      let (others, widest, stop) ← lexBlockIndentation bound widest (← mark)
      return (first ++ others, widest, stop)
    else return ([], widest, stop)

/-- Go past the spaces of an indentation. -/
def skipIndentation (indent : Nat) : Lex Unit := do
  let spaces := (← get).run (· == ' ')
  forward (min spaces.length (indent - (← mark).column))

/-- Read the line breaks of lines that are empty but for an indentation. -/
def lexBlockBreaks (indent : Nat) : Nat → Mark → Lex (List Char × Mark)
  | 0, stop => return ([], stop)
  | bound + 1, stop => do
    skipIndentation indent
    if isBreak (← peek) then
      let first ← lineBreak
      let (others, stop) ← lexBlockBreaks indent bound (← mark)
      return (first ++ others, stop)
    else return ([], stop)

/-- Read the lines of a block scalar: its text, the line break that ends its
last line, the breaks after that, and the end. -/
def lexBlockLines (folded : Bool) (indent : Nat) :
    Nat → List Char → Mark → Lex (List Char × List Char × List Char × Mark)
  | 0, breaks, stop => return ([], [], breaks, stop)
  | bound + 1, breaks, stop => do
    if (← mark).column ≠ indent || (← peek) == endMark then
      return ([], [], breaks, stop)
    let startsWithBlank := (← peek) == ' ' || (← peek) == '\t'
    let line ← takeWhile fun c => !isBreakOrEnd c
    let ending ← lineBreak
    let (next, nextStop) ← lexBlockBreaks indent (← get).rest.length (← mark)
    if (← mark).column ≠ indent || (← peek) == endMark then
      return (breaks ++ line, ending, next, nextStop)
    let blankFollows := (← peek) == ' ' || (← peek) == '\t'
    let joint :=
      if folded && ending == ['\n'] && !startsWithBlank && !blankFollows then
        (if next.isEmpty then [' '] else [])
      else ending
    let (text, lastEnding, lastBreaks, lastStop) ← lexBlockLines folded indent bound next nextStop
    return (breaks ++ line ++ joint ++ text, lastEnding, lastBreaks, lastStop)

/-- Read a block scalar inside a block of some indentation. -/
def lexBlockScalar (folded : Bool) (outer : Int) : Lex Token := do
  let start ← mark
  forward 1
  let (chomping, increment) ← lexBlockIndicators
  lexIgnoredLine
  let least := (max (outer + 1) 1).toNat
  let bound := (← get).rest.length + 1
  let (indent, breaks, stop) ← do
    match increment with
    | none =>
      let (breaks, widest, stop) ← lexBlockIndentation bound 0 (← mark)
      pure (max least widest, breaks, stop)
    | some increment =>
      let indent := least + increment - 1
      let (breaks, stop) ← lexBlockBreaks indent bound (← mark)
      pure (indent, breaks, stop)
  let (text, ending, breaks, stop) ← lexBlockLines folded indent bound breaks stop
  let tail := match chomping with
    | .clip => ending
    | .strip => []
    | .keep => ending ++ breaks
  return ⟨.scalar (.ofChars (text ++ tail) false), start, stop⟩

/-! ## Quoted scalars -/

/-- What a letter after a backslash stands for. -/
def quotedEscape? : Char → Option Char
  | '0' => some '\x00'
  | 'a' => some '\x07'
  | 'b' => some '\x08'
  | 't' | '\t' => some '\t'
  | 'n' => some '\n'
  | 'v' => some '\x0b'
  | 'f' => some '\x0c'
  | 'r' => some '\r'
  | 'e' => some '\x1b'
  | ' ' => some ' '
  | '"' => some '"'
  | '\\' => some '\\'
  | '/' => some '/'
  | 'N' => some '\u0085'
  | '_' => some '\u00a0'
  | 'L' => some '\u2028'
  | 'P' => some '\u2029'
  | _ => none

/-- How many hexadecimal digits follow a letter after a backslash. -/
def quotedCodeLength? : Char → Option Nat
  | 'x' => some 2
  | 'u' => some 4
  | 'U' => some 8
  | _ => none

/-- Read the digits of a code. -/
def lexCode (count : Nat) : Lex Nat := do
  let digits := ((← get).rest.take count).takeWhile fun c => (asciiDigitValue? 16 c).isSome
  if digits.length < count then
    fail (.expected (.hex count) (← peekAt digits.length))
  need (count - 1)
  let code := ofDigits 16 (digits.filterMap (asciiDigitValue? 16))
  if 0x110000 ≤ code then
    throw (.unreadable (.noCharacter code))
  forward count
  return code

/-- Read the blank lines inside a quoted scalar. -/
def lexQuotedBreaks : Nat → Lex (List Char)
  | 0 => return []
  | bound + 1 => do
    if ← atSeparator then
      fail .unexpectedSeparator
    skip fun c => c == ' ' || c == '\t'
    if isBreak (← peek) then
      let first ← lineBreak
      return first ++ (← lexQuotedBreaks bound)
    return []

/-- Characters that a quoted scalar treats specially. -/
def isQuotedSpecial (c : Char) : Bool :=
  c == '\'' || c == '"' || c == '\\' || isBlankOrEnd c

/-- Read the codes of a quoted scalar up to a blank or its end. -/
def lexQuotedRun (double : Bool) : Nat → Lex (List Nat)
  | 0 => return []
  | bound + 1 => do
    let plain := (← takeWhile fun c => !isQuotedSpecial c).map Char.toNat
    let c ← peek
    if !double && c == '\'' then
      if (← peekAt 1) == '\'' then
        forward 2
        return plain ++ '\''.toNat :: (← lexQuotedRun double bound)
      return plain
    else if (double && c == '\'') || (!double && (c == '"' || c == '\\')) then
      forward 1
      return plain ++ c.toNat :: (← lexQuotedRun double bound)
    else if double && c == '\\' then
      forward 1
      let c ← peek
      match quotedEscape? c, quotedCodeLength? c with
      | some meaning, _ =>
        forward 1
        return plain ++ meaning.toNat :: (← lexQuotedRun double bound)
      | none, some count =>
        forward 1
        let meaning ← lexCode count
        return plain ++ meaning :: (← lexQuotedRun double bound)
      | none, none =>
        if isBreak c then
          let _ ← lineBreak
          let breaks ← lexQuotedBreaks (← get).rest.length
          return plain ++ breaks.map Char.toNat ++ (← lexQuotedRun double bound)
        else fail (.unknownEscape c)
    else return plain

/-- Read the blanks inside a quoted scalar; a single line break counts as a
space. -/
def lexQuotedBlanks : Lex (List Char) := do
  let blanks ← takeWhile fun c => c == ' ' || c == '\t'
  let c ← peek
  if c == endMark then
    fail .unexpectedEnd
  if isBreak c then
    let ending ← lineBreak
    let breaks ← lexQuotedBreaks ((← get).rest.length + 1)
    if ending ≠ ['\n'] then return ending ++ breaks
    return (if breaks.isEmpty then [' '] else breaks)
  return blanks

/-- Read the rest of a quoted scalar up to its closing quote. -/
def lexQuotedRest (quote : Char) : Nat → Lex (List Nat)
  | 0 => return []
  | bound + 1 => do
    if (← peek) == quote then return []
    let blanks ← lexQuotedBlanks
    let run ← lexQuotedRun (quote == '"') ((← get).rest.length + 1)
    return blanks.map Char.toNat ++ run ++ (← lexQuotedRest quote bound)

/-- Read a quoted scalar. -/
def lexQuoted (quote : Char) : Lex Token := do
  let start ← mark
  forward 1
  let bound := (← get).rest.length + 1
  let first ← lexQuotedRun (quote == '"') bound
  let others ← lexQuotedRest quote bound
  forward 1
  token start (.scalar ⟨first ++ others, false⟩)

/-! ## Plain scalars -/

/-- Characters that end a plain scalar inside a flow collection. -/
def endsPlainInFlow (c : Char) : Bool :=
  c == ',' || c == '?' || c == '[' || c == ']' || c == '\x7b' || c == '\x7d'

/-- Characters that make a colon before them a separator. -/
def followsSeparator (inFlow : Bool) (c : Char) : Bool :=
  isBlankOrEnd c ||
    (inFlow && (c == ',' || c == '[' || c == ']' || c == '\x7b' || c == '\x7d'))

/-- The length of the part of a plain scalar before a blank or its end. -/
def plainLength (inFlow : Bool) : List Char → Nat
  | [] => 0
  | c :: rest =>
    if isBlankOrEnd c || (c == ':' && followsSeparator inFlow (rest.headD endMark)) ||
        (inFlow && endsPlainInFlow c) then 0
    else plainLength inFlow rest + 1

/-- Read the blank lines inside a plain scalar; `none` at the start or end of a
document. -/
def lexPlainBreaks : Nat → Lex (Option (List Char))
  | 0 => return some []
  | bound + 1 => do
    let c ← peek
    if c == ' ' then
      forward 1
      lexPlainBreaks bound
    else if isBreak c then
      let first ← lineBreak
      if ← atSeparator then return none
      return (← lexPlainBreaks bound).map (first ++ ·)
    else return some []

/-- Read the blanks after a part of a plain scalar: what they contribute if the
scalar goes on, and whether they hold a line break. -/
def lexPlainBlanks : Lex (Option (List Char) × Bool) := do
  let blanks ← takeWhile (· == ' ')
  if isBreak (← peek) then
    let ending ← lineBreak
    if ← atSeparator then return (none, true)
    match ← lexPlainBreaks ((← get).rest.length + 1) with
    | none => return (none, true)
    | some breaks =>
      if ending ≠ ['\n'] then return (some (ending ++ breaks), true)
      return (some (if breaks.isEmpty then [' '] else breaks), true)
  return (if blanks.isEmpty then none else some blanks, false)

/-- Read the parts of a plain scalar: its text, its end, and whether it is
followed by a line break. -/
def lexPlainParts (inFlow : Bool) (indent : Int) :
    Nat → List Char → Mark → Bool → Lex (List Char × Mark × Bool)
  | 0, _, stop, broken => return ([], stop, broken)
  | bound + 1, blanks, stop, broken => do
    if (← peek) == '#' then return ([], stop, broken)
    let count := plainLength inFlow (← get).rest
    if (← peekAt count) == ':' then
      need (count + 1)
    if count = 0 then return ([], stop, broken)
    let part := (← get).rest.take count
    forward count
    let stop ← mark
    match ← lexPlainBlanks with
    | (none, broken) => return (blanks ++ part, stop, broken)
    | (some next, broken) =>
      if (← peek) == '#' || (!inFlow && ((← mark).column : Int) < indent) then
        return (blanks ++ part, stop, broken)
      let (text, stop, broken) ← lexPlainParts inFlow indent bound next stop broken
      return (blanks ++ part ++ text, stop, broken)

/-- Read a plain scalar: its token, and whether a line break follows it. -/
def lexPlain (inFlow : Bool) (outer : Int) : Lex (Token × Bool) := do
  let start ← mark
  let (text, stop, broken) ←
    lexPlainParts inFlow (outer + 1) ((← get).rest.length + 1) [] start false
  return (⟨.scalar (.ofChars text true), start, stop⟩, broken)

end RunOnce.Yaml
