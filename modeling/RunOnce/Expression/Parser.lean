import RunOnce.Expression.FilledText
import RunOnce.Expression.Lexer
import RunOnce.Expression.Rules
import RunOnce.Text.LineEnd
import Std.Data.HashMap

/-!
# Reading expressions

The rules of the grammar are tried on the tokens of a text, which are cut off as
they are asked for. What some rules have read at a place is remembered. A rule
that starts with itself is read in steps that grow as long as they can.

A text that the grammar does not read is read once more, with the rules that
look for mistakes. If these find none, the text is said to be out of order;
but a fault of tokens that nobody has asked for counts before that, and before
any complaint.

Rules call each other to a limited depth.
-/

namespace RunOnce.Expression

/-- What was read by a rule at a place, and the place that it was read up to. -/
structure Memory where
  tree? : Option Tree
  mark : Nat

/-- A text of which some tokens are read. -/
structure Parser where
  lexer : Lexer
  tokens : Array Token := #[]
  /-- The number of tokens that are read. -/
  mark : Nat := 0
  memories : Std.HashMap (Rule × Nat) Memory := {}
  /-- Whether the rules that look for mistakes are tried. -/
  complains : Bool := false

/-- What is fixed while a text is read. -/
structure Setting where
  /-- Whether the text is filled into another one. -/
  isFilledIn : Bool
  /-- More than the number of tokens. -/
  bound : Nat
  /-- Read a text that is filled into one of this text, given the number of lines
  before it. -/
  readFilled : Nat → List Char → Except Raised Unit

/-- Reading, which may end with a fault. What was read before that is kept. -/
abbrev Parse := ExceptT Raised (StateM Parser)

/-- How a fault is raised in a text. -/
def Setting.raised (setting : Setting) (fault : Fault) : Raised :=
  .fault (if setting.isFilledIn then .filledIn fault else fault)

namespace Parse

/-- Go to a place among the tokens. -/
def goTo (mark : Nat) : Parse Unit :=
  modify fun parser => { parser with mark := mark }

/-! ## Tokens -/

/-- Cut off one more token. -/
def fetch (setting : Setting) : Parse Token := do
  let parser ← get
  match Lexer.next parser.lexer with
  | .ok token lexer =>
    set { parser with lexer := lexer, tokens := parser.tokens.push token }
    pure token
  | .error stop lexer =>
    set { parser with lexer := { lexer with isEnded := true } }
    match stop with
    | .fault fault => throw (.fault fault)
    | _ => throw (setting.raised (lexer.stopFault stop))

/-- The next token. -/
def current (setting : Setting) : Parse Token := do
  let parser ← get
  match parser.tokens[parser.mark]? with
  | some token => pure token
  | none => fetch setting

/-- Read a token that is asked for. -/
def readToken (setting : Setting) (wanted : Wanted) : Parse (Option Tree) := do
  let token ← current setting
  if wanted.isMet token then
    modify fun parser => { parser with mark := parser.mark + 1 }
    pure (some (if token.kind = .name then .name token.written else .token token))
  else pure none

/-! ## Quoted texts -/

/-- Read what is filled into a quoted text. -/
def readFilling (setting : Setting) (token : Token) (literal : TextLiteral) : Parse Unit := do
  let filling : Filling := {
    isRaw := literal.isRaw
    body := literal.body
    read := fun lines filled => setting.readFilled (token.line + lines) filled
    raise := setting.raised }
  match filling.readAll with
  | .ok _ => pure ()
  | .error raised => throw raised

/-- Read quoted texts that stand next to each other, all of bytes or none, given
what the one before them is. -/
def readTexts (setting : Setting) (isBytes? : Option Bool) : List Token → Parse Unit
  | [] => pure ()
  | token :: others => do
    let literal := TextLiteral.ofWritten token.written
    if let some fault := literal.fault? then throw (setting.raised fault)
    if (isBytes?.map (· != literal.isBytes)).getD false then throw (setting.raised .mixedTexts)
    if literal.isFilled then readFilling setting token literal
    readTexts setting (some literal.isBytes) others

/-- The tree of quoted texts. -/
def textTree (tokens : List Token) : Tree :=
  let literals := tokens.map fun token => TextLiteral.ofWritten token.written
  if literals.any (·.isFilled) then .filledText
  else if literals.any (·.isBytes) then .literal .bytes
  else .literal .text

/-- The literal of a number. -/
def numberLiteral : NumberValue → Literal
  | .integer value => .integer value
  | .real => .real
  | .imaginary => .imaginary

/-! ## Rules -/

/-- Make a tree of what an alternative has read. -/
def finish (setting : Setting) : Outcome → Parse (Option Tree)
  | .built tree => pure (some tree)
  | .refused => pure none
  | .complaint complaint => throw (setting.raised (.complaint complaint))
  | .complaintInBrackets complaint => do
    let parser ← get
    match parser.tokens[parser.mark - 1]? with
    | some token =>
      if token.level = 0 then pure none else throw (setting.raised (.complaint complaint))
    | none => pure none
  | .number token =>
    match numberValue token.written with
    | .ok value => pure (some (.literal (numberLiteral value)))
    | .error fault => throw (setting.raised fault)
  | .texts tokens => do
    readTexts setting none tokens
    pure (some (textTree tokens))

/-- What is read at one more level of depth. -/
inductive Task
  | rule (rule : Rule)
  /-- A step of a rule that starts with itself. -/
  | step (rule : Rule)
  | choice (branches : List Branch)
  | repeated (item : Pattern) (isNeeded : Bool)
  | separated (separator item : Pattern)
  /-- Any number of items that stand after separators. -/
  | separatedMore (separator item : Pattern)

/-- How tasks are done. -/
abbrev Enter := Task → Parse (Option Tree)

/-- Read an item. Where it may be left out there is a tree in any case. -/
def readItem (setting : Setting) (enter : Enter) : Pattern → Parse (Option Tree)
  | .token wanted => readToken setting wanted
  | .rule rule => enter (.rule rule)
  | .choice branches => enter (.choice branches)
  | .optional item => do
    let mark := (← get).mark
    match ← readItem setting enter item with
    | some tree => pure (some tree)
    | none =>
      goTo mark
      pure (some .absent)
  | .repeated item isNeeded => enter (.repeated item isNeeded)
  | .separated separator item => enter (.separated separator item)
  | .ahead item isExpected => do
    let mark := (← get).mark
    let tree? ← readItem setting enter item
    goTo mark
    pure (if tree?.isSome = isExpected then some .absent else none)
  | .commit => pure (some .absent)

/-- What became of the items of an alternative. -/
inductive ItemsRead
  | all (trees : List Tree)
  /-- One of them is missing, and other alternatives may be tried or not. -/
  | missing (isCommitted : Bool)

/-- Read items one after the other, after others that were read. -/
def readItems (setting : Setting) (enter : Enter) (isCommitted : Bool) (before : List Tree) :
    List Pattern → Parse ItemsRead
  | [] => pure (.all before.reverse)
  | .commit :: items => readItems setting enter true before items
  | item :: items => do
    match ← readItem setting enter item with
    | some tree => readItems setting enter isCommitted (tree :: before) items
    | none => pure (.missing isCommitted)

/-- Whether an alternative only looks for mistakes. -/
def isComplaint : List Pattern → Bool
  | [.rule rule] => rule.isComplaint
  | _ => false

/-- Try alternatives in their order. -/
def readBranches (setting : Setting) (enter : Enter) : List Branch → Parse (Option Tree)
  | [] => pure none
  | ⟨items, build⟩ :: others => do
    let mark := (← get).mark
    let complains := (← get).complains
    if isComplaint items && !complains then readBranches setting enter others
    else
      match ← readItems setting enter false [] items with
      | .all trees => finish setting (build trees)
      | .missing isCommitted =>
        goTo mark
        if isCommitted then pure none else readBranches setting enter others

/-- Read an item as often as it is there. -/
def readRepeated (setting : Setting) (enter : Enter) (item : Pattern) :
    Nat → List Tree → Parse (List Tree)
  | 0, before => pure before.reverse
  | bound + 1, before => do
    let mark := (← get).mark
    match ← readItem setting enter item with
    | some tree => readRepeated setting enter item bound (tree :: before)
    | none =>
      goTo mark
      pure before.reverse

/-- Read items after separators as often as they are there. -/
def readSeparated (setting : Setting) (enter : Enter) (separator item : Pattern) :
    Nat → List Tree → Parse (List Tree)
  | 0, before => pure before.reverse
  | bound + 1, before => do
    let mark := (← get).mark
    match ← readItems setting enter false [] [separator, item] with
    | .all trees => readSeparated setting enter separator item bound (trees.drop 1 ++ before)
    | .missing _ =>
      goTo mark
      pure before.reverse

/-- Remember what a rule has read at a place. -/
def remember (rule : Rule) (start : Nat) (tree? : Option Tree) : Parse Unit :=
  modify fun parser =>
    { parser with memories := parser.memories.insert (rule, start) ⟨tree?, parser.mark⟩ }

/-- Read a rule that starts with itself, from a place on. Each step takes what is
remembered for the start of its own, and must go further than that. -/
def grow (enter : Enter) (rule : Rule) (start : Nat) :
    Nat → Option Tree → Parse (Option Tree)
  | 0, tree? => pure tree?
  | bound + 1, tree? => do
    let reached := (← get).mark
    remember rule start tree?
    goTo start
    let grown? ← enter (.step rule)
    if grown?.isSome && reached < (← get).mark then grow enter rule start bound grown?
    else
      goTo reached
      pure tree?

/-- Read without looking for mistakes. -/
def quietly (reading : Parse (Option Tree)) : Parse (Option Tree) := do
  let complains := (← get).complains
  modify fun parser => { parser with complains := false }
  let tree? ← reading
  modify fun parser => { parser with complains := complains }
  pure tree?

/-- Read a rule, unless it is remembered what it reads here. -/
def readRule (setting : Setting) (enter : Enter) (rule : Rule) : Parse (Option Tree) := do
  if rule.isRemembered then
    let _ ← current setting
    let parser ← get
    let start := parser.mark
    match parser.memories[(rule, start)]? with
    | some memory =>
      goTo memory.mark
      pure memory.tree?
    | none =>
      if rule.isLeftRecursive then grow enter rule start setting.bound none
      else
        let tree? ← readBranches setting enter rule.branches
        remember rule start tree?
        pure tree?
  else if rule = .expressionQuietly then quietly (readBranches setting enter rule.branches)
  else readBranches setting enter rule.branches

/-- Do a task, given how those inside of it are done. -/
def perform (setting : Setting) (enter : Enter) : Task → Parse (Option Tree)
  | .rule rule => readRule setting enter rule
  | .step rule => readBranches setting enter rule.branches
  | .choice branches => readBranches setting enter branches
  | .repeated item isNeeded => do
    let trees ← readRepeated setting enter item setting.bound []
    pure (if isNeeded && trees.isEmpty then none else some (.list trees))
  | .separated separator item => do
    match ← readItem setting enter item with
    | none => pure none
    | some first =>
      match ← enter (.separatedMore separator item) with
      | some (.list others) => pure (some (.list (first :: others)))
      | _ => pure none
  | .separatedMore separator item => do
    pure (some (.list (← readSeparated setting enter separator item setting.bound [])))

/-- Do a task, with as many levels of depth inside of it. -/
def enter (setting : Setting) : Nat → Task → Parse (Option Tree)
  | 0, _ => throw .tooDeep
  | levels + 1, task => perform setting (enter setting levels) task

end Parse

/-! ## Whole texts -/

/-- The levels of depth to which rules call each other. -/
def maxLevels : Nat := 6000

/-- The line of the last token that was cut off. -/
def Parser.lastLine (parser : Parser) : Nat :=
  (parser.tokens.back?.map (·.line)).getD 0

/-- What is raised for a fault that was found: a fault in the rest of the text
counts before it. -/
def Parser.finalFault (setting : Setting) (parser : Parser) (found : Raised) : Raised :=
  let bound := 2 * parser.lexer.rest.length + parser.lexer.margins.length + 4
  match parser.lexer.laterFault? parser.lastLine bound with
  | some (fault, true) => setting.raised fault
  | some (fault, false) => .fault fault
  | none => found

/-- What is raised when reading ends with a fault. At the end of the text, and if
the depth was not enough, nothing else is looked at. -/
def Parser.raisedAfter (setting : Setting) (parser : Parser) (raised : Raised) : Raised :=
  if raised = .tooDeep || parser.lexer.isEnded then raised else parser.finalFault setting raised

/-- What is raised for a text in which no mistake was found, given the last token
of the first reading. -/
def Parser.raisedForDisorder (setting : Setting) (parser : Parser) (last? : Option Token) : Raised :=
  let isLast (kind : TokenKind) : Bool := (last?.map (·.kind)) == some kind
  if isLast .indent then setting.raised .indented
  else if isLast .dedent then setting.raised .dedented
  else parser.finalFault setting (setting.raised .disordered)

/-- Read a text by a rule. -/
def parseWith (setting : Setting) (rule : Rule) (lexer : Lexer) : Except Raised Tree :=
  let reading := Parse.enter setting maxLevels (.rule rule)
  match reading { lexer := lexer } with
  | (.ok (some tree), _) => .ok tree
  | (.error raised, parser) => .error (parser.raisedAfter setting raised)
  | (.ok none, parser) =>
    let last? := parser.tokens.back?
    match reading { parser with mark := 0, memories := {}, complains := true } with
    | (.error raised, parser) => .error (parser.raisedAfter setting raised)
    | (.ok _, parser) => .error (parser.raisedForDisorder setting last?)

/-- Read an expression that is filled into a text and starts on a line. It is
read in brackets. In a text that is filled in there may be others, so many
times. -/
def parseFilled : Nat → Nat → List Char → Except Raised Unit
  | 0, _, _ => .error .tooDeep
  | depth + 1, line, filled => do
    let text := '(' :: filled ++ [')', '\n']
    let setting := ⟨true, 2 * text.length + 4, parseFilled depth⟩
    let _ ← parseWith setting .filled { rest := text, line := line - 1 }
    pure ()

/-- Read an expression. -/
def parse (cs : List Char) : Except Raised Tree :=
  let text := Text.unifyLineEnds (cs.dropWhile fun c => c == ' ' || c == '\t')
  let setting := ⟨false, 2 * text.length + 4, parseFilled text.length⟩
  parseWith setting .whole { rest := text }

end RunOnce.Expression
