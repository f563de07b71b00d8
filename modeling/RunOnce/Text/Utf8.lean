import RunOnce.Text.Digit

/-!
# UTF-8

Bytes write a text if they form sequences, each of which writes one character.
Where they do not, the first fault is found: its place, how many bytes it takes
up, and what is wrong with them.
-/

namespace RunOnce.Text

/-- What is wrong with bytes. -/
inductive Utf8Reason
  /-- No sequence starts with the byte. -/
  | badStart
  /-- A sequence goes on with a byte that it cannot go on with. -/
  | badContinuation
  /-- The bytes end inside a sequence. -/
  | cutOff
deriving DecidableEq, Repr

/-- The text of a reason. -/
def Utf8Reason.text : Utf8Reason → String
  | badStart => "invalid start byte"
  | badContinuation => "invalid continuation byte"
  | cutOff => "unexpected end of data"

/-- Bytes that write no character. -/
structure Utf8Fault where
  position : Nat
  /-- How many bytes are at fault. -/
  count : Nat
  /-- The first of them. -/
  byte : Nat
  reason : Utf8Reason
deriving DecidableEq, Repr

/-- The message about bytes that write no character. -/
def Utf8Fault.message (fault : Utf8Fault) : String :=
  let place :=
    if fault.count = 1 then
      "byte 0x" ++ String.ofList (hexPadded 2 fault.byte) ++ " in position " ++
        toString fault.position
    else
      "bytes in position " ++ toString fault.position ++ "-" ++
        toString (fault.position + fault.count - 1)
  "'utf-8' codec can't decode " ++ place ++ ": " ++ fault.reason.text

namespace Utf8

/-- How many bytes follow the first one of a sequence, and the range of the
second one. -/
def sequenceAfter? (first : Nat) : Option (Nat × Nat × Nat) :=
  if first < 0x80 then some (0, 0x80, 0xBF)
  else if first < 0xC2 then none
  else if first < 0xE0 then some (1, 0x80, 0xBF)
  else if first = 0xE0 then some (2, 0xA0, 0xBF)
  else if first = 0xED then some (2, 0x80, 0x9F)
  else if first < 0xF0 then some (2, 0x80, 0xBF)
  else if first = 0xF0 then some (3, 0x90, 0xBF)
  else if first < 0xF4 then some (3, 0x80, 0xBF)
  else if first = 0xF4 then some (3, 0x80, 0x8F)
  else none

/-- Go past the bytes that a sequence goes on with, the next of which must lie
in a range. A fault tells how many bytes came before it. -/
def continueSequence (passed low high : Nat) :
    Nat → List UInt8 → Except (Nat × Utf8Reason) (List UInt8)
  | 0, bytes => .ok bytes
  | _ + 1, [] => .error (passed, .cutOff)
  | count + 1, byte :: bytes =>
    if low ≤ byte.toNat ∧ byte.toNat ≤ high then
      continueSequence (passed + 1) 0x80 0xBF count bytes
    else .error (passed, .badContinuation)

/-- The first fault of bytes, which start at a position. A sequence has at least
one byte, so the number of bytes bounds the number of sequences. -/
def firstFault? : Nat → Nat → List UInt8 → Option Utf8Fault
  | 0, _, _ => none
  | _, _, [] => none
  | bound + 1, position, byte :: bytes =>
    match sequenceAfter? byte.toNat with
    | none => some ⟨position, 1, byte.toNat, .badStart⟩
    | some (count, low, high) =>
      match continueSequence 1 low high count bytes with
      | .error (passed, reason) => some ⟨position, passed, byte.toNat, reason⟩
      | .ok rest => firstFault? bound (position + 1 + count) rest

/-- The text that bytes write, or their first fault. -/
def decode (bytes : List UInt8) : Except Utf8Fault String :=
  match String.fromUTF8? ⟨bytes.toArray⟩ with
  | some text => .ok text
  | none =>
    match firstFault? bytes.length 0 bytes with
    | some fault => .error fault
    | none => .ok ""

end Utf8

end RunOnce.Text
