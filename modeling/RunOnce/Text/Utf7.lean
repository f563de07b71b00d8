import RunOnce.Text.Base64
import RunOnce.Text.Halves

/-!
# UTF-7

A text is written in ASCII. A plus sign opens a section in base 64, whose digits
write numbers of sixteen bits. The first character that is no digit closes the
section, and a hyphen that does so is left out. A plus sign with a hyphen right
after it writes a plus sign.
-/

namespace RunOnce.Text.Utf7

/-- What a section leaves open. -/
structure Section where
  /-- How many bits no number has taken yet. -/
  count : Nat := 0
  /-- The number that these bits write. -/
  left : Nat := 0
  /-- A high half that waits for its low half. -/
  high? : Option Nat := none
deriving DecidableEq, Repr

namespace Section

/-- Take in a number, and give the codes that it completes. -/
def addNumber (part : Section) (number : Nat) : List Nat × Section :=
  match part.high? with
  | some high =>
    if isLowHalf number then ([joinHalves high number], { part with high? := none })
    else if isHighHalf number then ([high], { part with high? := some number })
    else ([high, number], { part with high? := none })
  | none =>
    if isHighHalf number then ([], { part with high? := some number }) else ([number], part)

/-- Take in a digit, and give the codes that it completes. -/
def add (part : Section) (digit : Nat) : List Nat × Section :=
  let bits := part.left * 64 + digit
  let count := part.count + 6
  if count < 16 then ([], { part with count := count, left := bits })
  else
    let unit := 1 <<< (count - 16)
    { part with count := count - 16, left := bits % unit }.addNumber (bits / unit)

/-- Whether the bits that are left only fill up the last digit. -/
def isFilled (part : Section) : Bool :=
  part.count < 6 && part.left == 0

end Section

/-- Whether a character may stand for itself. -/
def isDirect (c : Char) : Bool :=
  c.toNat < 128 && c != '+'

/-- The codes that characters write, from a section or from outside of one on. -/
def codes? (part? : Option Section) : List Char → Option (List Nat)
  | [] =>
    if part?.all fun part => part.isFilled && part.high?.isNone then some [] else none
  | c :: rest =>
    match part?, Base64.digitOf? c with
    | some part, some digit =>
      let (codes, next) := part.add digit
      (codes? (some next) rest).map (codes ++ ·)
    | _, _ =>
      let waiting := if isDirect c then (part?.bind Section.high?).toList else []
      if !(part?.all Section.isFilled) then none
      else if part?.isSome && c = '-' then (codes? none rest).map (waiting ++ ·)
      else if isDirect c then (codes? none rest).map (waiting ++ c.toNat :: ·)
      else if c = '+' then
        match rest with
        | [] => some []
        | '-' :: rest => (codes? none rest).map ('+'.toNat :: ·)
        | next :: others =>
          if (Base64.digitOf? next).isSome then codes? (some {}) (next :: others) else none
      else none

/-- The codes that bytes write. -/
def decode? (bytes : List UInt8) : Option (List Nat) :=
  codes? none (bytes.map fun byte => Char.ofNat byte.toNat)

end RunOnce.Text.Utf7
