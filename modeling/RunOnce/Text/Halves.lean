/-!
# Halves of characters

A character beyond the first 65536 codes can be written as two codes, a high
and a low half. On its own a half is no character, and neither is any code above
the last character.
-/

namespace RunOnce.Text

/-- Whether a code is a high half. -/
def isHighHalf (code : Nat) : Bool :=
  0xD800 ≤ code && code < 0xDC00

/-- Whether a code is a low half. -/
def isLowHalf (code : Nat) : Bool :=
  0xDC00 ≤ code && code < 0xE000

/-- The character of a code, if there is one. -/
def charOfCode? (code : Nat) : Option Char :=
  if code.isValidChar then some (Char.ofNat code) else none

/-- The code that two halves write. -/
def joinHalves (high low : Nat) : Nat :=
  0x10000 + (high - 0xD800) * 0x400 + (low - 0xDC00)

/-- The characters that codes write. A code that writes none is replaced. -/
def charsOfCodes : List Nat → List Char
  | [] => []
  | [code] => [(charOfCode? code).getD '\uFFFD']
  | high :: low :: rest =>
    if isHighHalf high && isLowHalf low then
      (charOfCode? (joinHalves high low)).getD '\uFFFD' :: charsOfCodes rest
    else (charOfCode? high).getD '\uFFFD' :: charsOfCodes (low :: rest)

/-- The characters that codes are seen as one by one. A code that is no
character is seen as the replacement character. -/
def seenChars (codes : List Nat) : List Char :=
  codes.map fun code => (charOfCode? code).getD '\uFFFD'

/-- Codes as characters. Each of the three bytes that would write a code which
is no character is replaced. -/
def lossyChars (codes : List Nat) : List Char :=
  codes.flatMap fun code =>
    match charOfCode? code with
    | some c => [c]
    | none => List.replicate 3 '\uFFFD'

/-- Put back codes that are seen as the replacement character. -/
def putBack : List Nat → List Char → List Nat
  | code :: codes, '\uFFFD' :: rest => code :: putBack codes rest
  | codes, c :: rest => c.toNat :: putBack codes rest
  | _, [] => []

/-- Change the characters among codes by a function that leaves the replacement
character as it is. -/
def mapSeen (change : List Char → List Char) (codes : List Nat) : List Nat :=
  putBack (codes.filter fun code => (charOfCode? code).getD '\uFFFD' == '\uFFFD')
    (change (seenChars codes))

end RunOnce.Text
