import RunOnce.Number.Binary64
import RunOnce.Text.Blank
import RunOnce.Text.Digit
import RunOnce.Text.Quoted

/-!
# Reading numbers

Numbers are read from texts with white space around them, a sign, and decimal
digits of any script, with single underscores between digits. An integer in base
two, eight or sixteen may start with the mark of its base.
-/

namespace RunOnce.Number

open RunOnce.Text

/-- The value of a digit in a base up to sixteen. -/
def digitIn? (base : Nat) (c : Char) : Option Nat :=
  match digitValue? c with
  | some value => if value < base then some value else none
  | none => asciiDigitValue? base c

/-- The letter that marks a base, after a zero. -/
def baseMark? : Nat → Option Char
  | 2 => some 'b'
  | 8 => some 'o'
  | 16 => some 'x'
  | _ => none

/-- Leave out the mark of a base, and an underscore after it. -/
def dropBaseMark (base : Nat) (cs : List Char) : List Char :=
  match baseMark? base, cs with
  | some mark, '0' :: letter :: rest =>
    if letter = mark ∨ letter = mark.toUpper then
      match rest with
      | '_' :: digits => digits
      | digits => digits
    else cs
  | _, _ => cs

/-- The most digits that an integer in base ten may have. -/
def maxDigits : Nat := 4300

/-- Why a text is no integer. -/
inductive IntegerFault
  | malformed (base : Nat) (codes : List Nat)
  | tooManyDigits (count : Nat)
deriving DecidableEq, Repr

/-- The text about too many digits. -/
def tooManyDigitsText (count : Nat) : String :=
  "Exceeds the limit (" ++ toString maxDigits ++
    " digits) for integer string conversion: value has " ++ toString count ++
    " digits; use sys.set_int_max_str_digits() to increase the limit"

/-- The text of a fault. Of a long text only the start is shown. -/
def IntegerFault.message : IntegerFault → String
  | malformed base codes =>
    "invalid literal for int() with base " ++ toString base ++ ": " ++
      String.ofList ((Quoted.encodeCodes codes).toList.take 200)
  | tooManyDigits count => tooManyDigitsText count

/-- Read an integer in a base. The digits that come first are counted before it
is looked at what follows them; only in base ten there is a limit. -/
def readInteger (base : Nat) (codes : List Nat) : Except IntegerFault Int :=
  let (negative, unsigned) := takeSign (trimWhiteSpace (seenChars codes))
  let written := dropBaseMark base unsigned
  let leading := written.takeWhile fun c => (digitIn? base c).isSome || c == '_'
  match dropSeparators? leading with
  | none => .error (.malformed base codes)
  | some digits =>
    if base = 10 ∧ maxDigits < digits.length then .error (.tooManyDigits digits.length)
    else if leading.length < written.length then .error (.malformed base codes)
    else .ok (signed negative (ofDigits base (digits.filterMap (digitIn? base))))

/-- The values of digits, in which there may be none. -/
def digitValues? (cs : List Char) : Option (List Nat) :=
  if cs.isEmpty then some [] else do (← dropSeparators? cs).mapM (digitIn? 10)

/-- Read the exponent of a decimal, which may be left out. -/
def readExponent? : List Char → Option Int
  | [] => some 0
  | _ :: cs => do
    let (negative, digits) := takeSign cs
    if digits.isEmpty then none
    else pure (signed negative (ofDigits 10 (← digitValues? digits)))

/-- Read a decimal without a sign. -/
def readDecimal? (negative : Bool) (cs : List Char) : Option Binary64 := do
  let isMark (c : Char) : Bool := c == 'e' || c == 'E'
  let mantissa := cs.takeWhile fun c => !isMark c
  let whole ← digitValues? (mantissa.takeWhile (· ≠ '.'))
  let fraction ← digitValues? ((mantissa.dropWhile (· ≠ '.')).drop 1)
  if whole.isEmpty && fraction.isEmpty then none
  else
    let exponent ← readExponent? (cs.dropWhile fun c => !isMark c)
    pure (.ofDecimal negative (ofDigits 10 (whole ++ fraction)) (exponent - fraction.length))

/-- Read a number with a fraction, or a word for what is no such number. -/
def readFloat? (cs : List Char) : Option Binary64 :=
  let (negative, unsigned) := takeSign (trimWhiteSpace cs)
  let word := String.ofList (unsigned.map Char.toLower)
  if word ∈ ["inf", "infinity"] then some (.infinite negative)
  else if word = "nan" then some .nan
  else readDecimal? negative unsigned

end RunOnce.Number
