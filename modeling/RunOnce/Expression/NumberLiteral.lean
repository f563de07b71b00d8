import RunOnce.Expression.Fault

/-!
# Numbers in expressions

A number is decimal, with a fraction, an exponent and the letter of imaginary
numbers if need be, or it starts with the mark of another base. Single
underscores may stand between its digits. No name may follow it at once, with
the exception of a few words.
-/

namespace RunOnce.Expression

open RunOnce.Text

/-- Whether a character looks as if it could start a name. -/
def looksLikeName (c : Char) : Bool :=
  c.isAlpha || c == '_' || 128 ≤ c.toNat

/-- Whether a character looks as if a name could go on with it. -/
def looksLikeNamePart (c : Char) : Bool :=
  looksLikeName c || c.isDigit

/-- Whether a word stands here, with nothing after it that goes on a name. -/
def atWord (word : String) (cs : List Char) : Bool :=
  word.toList.isPrefixOf cs &&
    !((cs.drop word.length).head?.map looksLikeNamePart).getD false

/-- Whether a word stands here that may follow a number at once. -/
def mayFollowNumber (cs : List Char) : Bool :=
  ["and", "else", "for", "or", "not"].any (atWord · cs) ||
    ["if", "in", "is"].any fun word => word.toList.isPrefixOf cs

/-- What follows a number ends it: no name starts there, unless it is one of the
words that may. -/
def numberEnd (form : NumberForm) (cs : List Char) : Except Fault (List Char) :=
  match cs with
  | c :: _ =>
    if looksLikeNamePart c && !mayFollowNumber cs then .error (.badNumber form) else .ok cs
  | [] => .ok []

/-- What follows digits. An underscore may stand between two of them. -/
def afterDigits (form : NumberForm) (isDigit : Char → Bool) : List Char → Except Fault (List Char)
  | [] => .ok []
  | ['_'] => .error (.badNumber form)
  | '_' :: c :: rest =>
    if isDigit c then afterDigits form isDigit rest
    else if c.isDigit then .error (.badDigit c form)
    else .error (.badNumber form)
  | c :: rest => if isDigit c then afterDigits form isDigit rest else .ok (c :: rest)

/-- What follows a number after the mark of its form. -/
def afterFormed (form : NumberForm) (isDigit : Char → Bool) (cs : List Char) :
    Except Fault (List Char) := do
  let digits := match cs with
    | '_' :: rest => rest
    | _ => cs
  let refuse (c : Char) : Except Fault (List Char) :=
    .error (if c.isDigit then .badDigit c form else .badNumber form)
  match digits with
  | [] => .error (.badNumber form)
  | c :: rest =>
    if isDigit c then
      match ← afterDigits form isDigit rest with
      | d :: after => if d.isDigit then refuse d else numberEnd form (d :: after)
      | [] => .ok []
    else refuse c

/-- What follows the letter of an imaginary number, or the end of a decimal one. -/
def afterImaginary : List Char → Except Fault (List Char)
  | 'j' :: rest | 'J' :: rest => numberEnd .imaginary rest
  | cs => numberEnd .decimal cs

/-- Whether digits come next. -/
def atDigit (cs : List Char) : Bool :=
  (cs.head?.map Char.isDigit).getD false

/-- What follows an exponent, if there is one, and the rest of the number. -/
def afterExponent (cs : List Char) : Except Fault (List Char) :=
  match cs with
  | e :: rest =>
    if e == 'e' || e == 'E' then
      match rest with
      | '+' :: digits | '-' :: digits =>
        if atDigit digits then do afterImaginary (← afterDigits .decimal Char.isDigit digits)
        else .error (.badNumber .decimal)
      | digits =>
        if atDigit digits then do afterImaginary (← afterDigits .decimal Char.isDigit digits)
        else numberEnd .decimal cs
    else afterImaginary cs
  | [] => .ok []

/-- What follows a fraction after its point. -/
def afterFraction (cs : List Char) : Except Fault (List Char) := do
  if atDigit cs then afterExponent (← afterDigits .decimal Char.isDigit cs) else afterExponent cs

/-- What follows a decimal number. A whole number other than zero does not start
with a zero. -/
def afterDecimal (cs : List Char) : Except Fault (List Char) := do
  match ← afterDigits .decimal Char.isDigit cs with
  | '.' :: rest => afterFraction rest
  | rest =>
    let continued := (rest.head?.map fun c => "eEjJ".toList.contains c).getD false
    let written := cs.take (cs.length - rest.length)
    if !continued && cs.head? == some '0' && written.any fun c => c != '0' && c != '_' then
      .error .leadingZeros
    else afterExponent rest

/-- Whether a character is a digit of base sixteen. -/
def isHexDigit (c : Char) : Bool :=
  (asciiDigitValue? 16 c).isSome

/-- What follows a number. -/
def afterNumber (cs : List Char) : Except Fault (List Char) :=
  match cs with
  | '.' :: rest => afterFraction rest
  | '0' :: 'x' :: rest | '0' :: 'X' :: rest => afterFormed .hexadecimal isHexDigit rest
  | '0' :: 'o' :: rest | '0' :: 'O' :: rest => afterFormed .octal (fun c => '0' ≤ c && c ≤ '7') rest
  | '0' :: 'b' :: rest | '0' :: 'B' :: rest =>
    afterFormed .binary (fun c => c == '0' || c == '1') rest
  | _ => afterDecimal cs

/-- What a number is. -/
inductive NumberValue
  | integer (value : Nat)
  | real
  | imaginary
deriving DecidableEq, Repr

/-- The number in a base that digits with underscores between them write. -/
def wholeValue (base : Nat) (digits : List Char) : Nat :=
  ofDigits base (digits.filterMap (asciiDigitValue? base))

/-- The value of a number. In base ten it must not have too many digits, but
zeros are never too many. -/
def numberValue (written : List Char) : Except Fault NumberValue :=
  match written with
  | '0' :: 'x' :: digits | '0' :: 'X' :: digits => .ok (.integer (wholeValue 16 digits))
  | '0' :: 'o' :: digits | '0' :: 'O' :: digits => .ok (.integer (wholeValue 8 digits))
  | '0' :: 'b' :: digits | '0' :: 'B' :: digits => .ok (.integer (wholeValue 2 digits))
  | _ =>
    if written.any fun c => c == 'j' || c == 'J' then .ok .imaginary
    else if written.any fun c => c == '.' || c == 'e' || c == 'E' then .ok .real
    else
      let digits := written.filter (· != '_')
      if Number.maxDigits < digits.length ∧ digits.head? ≠ some '0' then
        .error (.tooManyDigits digits.length)
      else .ok (.integer (wholeValue 10 digits))

end RunOnce.Expression
