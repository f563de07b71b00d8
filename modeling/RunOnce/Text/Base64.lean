/-!
# Base 64

Four characters of an alphabet of sixty-four write three bytes. Other
characters between them are passed over. Equals signs fill up the last four
characters, and end the text once they have done so.
-/

namespace RunOnce.Text.Base64

/-- Why characters write no bytes. -/
inductive Fault
  /-- One character is left over after so many that write bytes. -/
  | strayCharacter (before : Nat)
  /-- The last characters are not filled up to four. -/
  | notFilled
deriving DecidableEq, Repr

/-- The message about characters that write no bytes. -/
def Fault.message : Fault → String
  | strayCharacter before =>
    "Invalid base64-encoded string: number of data characters (" ++ toString (before + 1) ++
      ") cannot be 1 more than a multiple of 4"
  | notFilled => "Incorrect padding"

/-- The value of a character of the alphabet. -/
def digitOf? (c : Char) : Option Nat :=
  if 'A' ≤ c ∧ c ≤ 'Z' then some (c.toNat - 'A'.toNat)
  else if 'a' ≤ c ∧ c ≤ 'z' then some (c.toNat - 'a'.toNat + 26)
  else if '0' ≤ c ∧ c ≤ '9' then some (c.toNat - '0'.toNat + 52)
  else if c = '+' then some 62
  else if c = '/' then some 63
  else none

/-- What was read so far. -/
structure Progress where
  /-- The characters of the present four, from none to three. -/
  place : Nat := 0
  /-- The bits that no byte has taken yet. -/
  left : Nat := 0
  /-- The equals signs since the last character of the alphabet. -/
  fill : Nat := 0
  /-- The bytes, the latest first. -/
  bytes : List UInt8 := []

/-- Take in a character of the alphabet. -/
def Progress.add (progress : Progress) (digit : Nat) : Progress :=
  match progress.place with
  | 0 => { progress with place := 1, left := digit, fill := 0 }
  | 1 =>
    { place := 2, left := digit % 16
      bytes := (progress.left * 4 + digit / 16).toUInt8 :: progress.bytes }
  | 2 =>
    { place := 3, left := digit % 4
      bytes := (progress.left * 16 + digit / 4).toUInt8 :: progress.bytes }
  | _ => { bytes := (progress.left * 64 + digit).toUInt8 :: progress.bytes }

/-- The bytes that were read. -/
def Progress.result (progress : Progress) : List UInt8 :=
  progress.bytes.reverse

/-- Read characters from a state on. -/
def decodeFrom (progress : Progress) : List Char → Except Fault (List UInt8)
  | [] =>
    if progress.place = 0 then .ok progress.result
    else if progress.place = 1 then .error (.strayCharacter (progress.bytes.length / 3 * 4))
    else .error .notFilled
  | c :: rest =>
    if c = '=' then
      if progress.place < 2 then decodeFrom progress rest
      else if 4 ≤ progress.place + progress.fill + 1 then .ok progress.result
      else decodeFrom { progress with fill := progress.fill + 1 } rest
    else
      match digitOf? c with
      | some digit => decodeFrom (progress.add digit) rest
      | none => decodeFrom progress rest

/-- The bytes that characters write. -/
def decode (cs : List Char) : Except Fault (List UInt8) :=
  decodeFrom {} cs

end RunOnce.Text.Base64
