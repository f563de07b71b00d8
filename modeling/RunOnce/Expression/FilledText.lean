import RunOnce.Expression.TextLiteral

/-!
# Texts that expressions are filled into

In such a text an expression stands in braces, and may be followed by an equals
sign, by the letter of a conversion, and by a format, which is a text that
expressions are filled into as well. Two braces of a kind stand for one.
-/

namespace RunOnce.Expression

open RunOnce.Text

/-- What ends a parse. -/
inductive Raised
  | fault (fault : Fault)
  /-- The expression is nested deeper than can be read. -/
  | tooDeep
deriving DecidableEq, Repr

/-! ## The text between the braces -/

/-- What stands before the place that is looked at. -/
inductive Preceding
  | plain
  | backslash
  /-- The letter of an escape by name. -/
  | nameLetter
  /-- A part of a name in braces. -/
  | nameInside
deriving DecidableEq, Repr

/-- The text up to a brace or to the end. -/
structure PlainPart where
  written : List Char
  rest : List Char
  /-- Whether it ends with a brace that was written twice. -/
  isDoubled : Bool
deriving DecidableEq, Repr

/-- The plain part before a brace. -/
def partBefore (isTop : Bool) (before : List Char) (brace : Char) (rest : List Char) :
    Except FillFault PlainPart :=
  if isTop && rest.head? == some brace then .ok ⟨(brace :: before).reverse, rest.drop 1, true⟩
  else if isTop && brace == '\x7d' then .error .loneBrace
  else .ok ⟨before.reverse, brace :: rest, false⟩

/-- Read a plain part. Only at the top a brace may be written twice. -/
def readPlain (isRaw isTop : Bool) (preceding : Preceding) (before : List Char) :
    List Char → Except FillFault PlainPart
  | [] => .ok ⟨before.reverse, [], false⟩
  | c :: rest =>
    let isBrace := c == '\x7b' || c == '\x7d'
    match preceding with
    | .nameLetter =>
      readPlain isRaw isTop (if c = '\x7b' then .nameInside else .plain) (c :: before) rest
    | .nameInside =>
      readPlain isRaw isTop (if c = '\x7d' then .plain else .nameInside) (c :: before) rest
    | .backslash =>
      if isBrace then partBefore isTop before c rest
      else readPlain isRaw isTop (if c = 'N' then .nameLetter else .plain) (c :: before) rest
    | .plain =>
      if isBrace then partBefore isTop before c rest
      else if c = '\\' && !isRaw then readPlain isRaw isTop .backslash (c :: before) rest
      else readPlain isRaw isTop .plain (c :: before) rest

/-! ## The expression in braces -/

/-- An expression of which some characters are passed. -/
structure Passed where
  /-- The characters, backwards. -/
  before : List Char := []
  /-- The quote of an open text, and whether it is written three times. -/
  quote? : Option (Char × Bool) := none
  brackets : List Char := []
  /-- How many characters belong to what was met last. -/
  skipped : Nat := 0
deriving DecidableEq, Repr

/-- Whether two quotes come next. -/
def isTripled (quote : Char) (rest : List Char) : Bool :=
  rest.take 2 == [quote, quote]

/-- Whether a character and the next one make a comparison. -/
def isComparison (c : Char) (rest : List Char) : Bool :=
  rest.head? == some '=' && (c == '!' || c == '=' || c == '<' || c == '>')

/-- Read an expression up to the character that ends it. The number of open
brackets is bounded. -/
def readFilled (passed : Passed) : List Char → Except FillFault (List Char × List Char)
  | [] =>
    if passed.quote?.isSome then .error .unterminated
    else
      match passed.brackets with
      | bracket :: _ => .error (.unmatched bracket)
      | [] => .error .braceMissing
  | c :: rest =>
    let next := { passed with before := c :: passed.before }
    if 0 < passed.skipped then readFilled { next with skipped := passed.skipped - 1 } rest
    else if c == '\\' then .error .backslash
    else
      match passed.quote? with
      | some (quote, true) =>
        if c == quote && isTripled quote rest then
          readFilled { next with quote? := none, skipped := 2 } rest
        else readFilled next rest
      | some (quote, false) =>
        readFilled { next with quote? := if c == quote then none else some (quote, false) } rest
      | none =>
        if c == '\'' || c == '"' then
          let isTriple := isTripled c rest
          readFilled { next with
            quote? := some (c, isTriple), skipped := if isTriple then 2 else 0 } rest
        else if c == '(' || c == '\x7b' || c == '[' then
          if 200 ≤ passed.brackets.length then .error .tooManyBrackets
          else readFilled { next with brackets := c :: passed.brackets } rest
        else if c == '#' then .error .comment
        else
          match passed.brackets with
          | [] =>
            if isComparison c rest then readFilled { next with skipped := 1 } rest
            else if c == '!' || c == ':' || c == '=' || c == '\x7d' then
              .ok (passed.before.reverse, c :: rest)
            else if c == ')' || c == ']' then .error (.unmatched c)
            else readFilled next rest
          | bracket :: outer =>
            if c == ')' || c == ']' || c == '\x7d' then
              if (bracket == '(' && c == ')') || (bracket == '[' && c == ']') ||
                  (bracket == '\x7b' && c == '\x7d') then
                readFilled { next with brackets := outer } rest
              else .error (.mismatched c bracket)
            else readFilled next rest

/-- The fault of an expression that holds blanks only, before what ends it. -/
def blankFault? (filled rest : List Char) : Option FillFault :=
  if filled.all fun c => c == ' ' || c == '\t' || c == '\n' || c == '\x0c' then
    match rest.head? with
    | some mark => if mark == '\x7d' then some .empty else some (.emptyBefore mark)
    | none => some .empty
  else none

/-- Pass an equals sign and blanks after it. -/
def afterEquals : List Char → List Char
  | '=' :: rest => rest.dropWhile fun c => c == ' ' || ('\t' ≤ c && c ≤ '\r')
  | rest => rest

/-- Pass the letter of a conversion. -/
def afterConversion : List Char → Except FillFault (List Char)
  | '!' :: letter :: rest =>
    if letter == 's' || letter == 'r' || letter == 'a' then .ok rest else .error .badConversion
  | '!' :: [] => .error .braceMissing
  | rest => .ok rest

/-! ## The whole text -/

/-- How the expressions in a text are read. -/
structure Filling where
  isRaw : Bool
  /-- The literal that the text is part of. -/
  body : List Char
  /-- Read an expression that stands after a number of line feeds. -/
  read : Nat → List Char → Except Raised Unit
  /-- How a fault of the text is raised. -/
  raise : Fault → Raised

namespace Filling

/-- Raise the faults of a result. -/
def told {α : Type} (filling : Filling) : Except FillFault α → Except Raised α
  | .ok result => .ok result
  | .error fault => .error (filling.raise (.fill fault))

/-- The line feeds before a rest of the text. -/
def linesBefore (filling : Filling) (rest : List Char) : Nat :=
  (filling.body.take (filling.body.length - rest.length)).count '\n'

/-- Read what follows an opening brace, up to the closing one, given how a
format is read; and what follows. -/
def readBraces (filling : Filling) (readFormat : List Char → Except Raised (List Char))
    (cs : List Char) : Except Raised (List Char) := do
  let (filled, rest) ← filling.told (readFilled {} cs)
  if let some fault := blankFault? filled rest then throw (filling.raise (.fill fault))
  filling.read (filling.linesBefore cs) filled
  let rest ← filling.told (afterConversion (afterEquals rest))
  let rest ← match rest with
    | [':'] => throw (filling.raise (.fill .braceMissing))
    | ':' :: format => readFormat format
    | _ => pure rest
  match rest with
  | '\x7d' :: after => pure after
  | _ => throw (filling.raise (.fill .braceMissing))

/-- Read plain parts and expressions in turn, and give what follows: nothing, or
the brace that ends a format. Every step passes a character, so their number
bounds the steps. -/
def readTurns (filling : Filling) (isTop : Bool)
    (readFormat? : Option (List Char → Except Raised (List Char))) :
    Nat → List Char → Except Raised (List Char)
  | 0, cs => .ok cs
  | bound + 1, cs => do
    let part ← filling.told (readPlain filling.isRaw isTop .plain [] cs)
    unless filling.isRaw do
      if let some fault := textFault? 0 (spelledOut part.written) then
        throw (filling.raise fault)
    if part.isDoubled then filling.readTurns isTop readFormat? bound part.rest
    else
      match part.rest with
      | '\x7b' :: inside =>
        match readFormat? with
        | none => throw (filling.raise (.fill .tooDeep))
        | some readFormat =>
          filling.readTurns isTop readFormat? bound (← filling.readBraces readFormat inside)
      | rest => pure rest

/-- Read a format in which formats may be nested so many levels deeper. -/
def readFormat (filling : Filling) : Nat → List Char → Except Raised (List Char)
  | 0, cs => filling.readTurns false none (cs.length + 1) cs
  | levels + 1, cs =>
    filling.readTurns false (some (filling.readFormat levels)) (cs.length + 1) cs

/-- Read the whole text. A format may have expressions with formats of their own,
but these have no expressions. -/
def readAll (filling : Filling) : Except Raised Unit := do
  let _ ← filling.readTurns true (some (filling.readFormat 1)) (filling.body.length + 1)
    filling.body
  pure ()

end Filling

end RunOnce.Expression
