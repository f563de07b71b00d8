import RunOnce.Text.LineEnd
import RunOnce.Yaml.Problem

/-!
# Characters of a document

The characters of a document are taken from a file in batches, as tokens are
needed: 8192 characters at first, then 4096 at a time. A batch cannot be taken
if one of its characters may not stand in a document, or if bytes that write no
text must be read for it. Such a batch is an obstacle, which is met when tokens
are needed that reach it; a problem that is found before counts instead.
-/

namespace RunOnce.Yaml

open RunOnce.Text

/-- Characters that cannot be taken. -/
structure Obstacle where
  /-- Where the batch starts. -/
  start : Nat
  error : Error
deriving Repr

/-- The characters of a document. -/
structure Characters where
  content : List Char
  obstacle? : Option Obstacle := none
deriving Repr

/-- How many characters a batch has. The first two batches are taken together. -/
def batchSize : Nat := 4096

/-- Where the batch of a position starts. -/
def batchStart (position : Nat) : Nat :=
  if position < 2 * batchSize then 0 else position - position % batchSize

/-- Whether a character may stand in a document. -/
def isAcceptable (c : Char) : Bool :=
  let code := c.toNat
  code == 0x9 || code == 0xA || code == 0xD || (0x20 ≤ code && code ≤ 0x7E) || code == 0x85 ||
    (0xA0 ≤ code && code ≤ 0xD7FF) || (0xE000 ≤ code && code ≤ 0xFFFD) || 0x10000 ≤ code

/-- The first character that may not stand in a document, with its position. -/
def unacceptable? (position : Nat) : List Char → Option (Nat × Nat)
  | [] => none
  | c :: rest =>
    if isAcceptable c then unacceptable? (position + 1) rest else some (c.toNat, position)

namespace Obstacle

/-- The batch with the first character that may not stand in a document. -/
def ofContent? (content : List Char) : Option Obstacle :=
  (unacceptable? 0 content).map fun (code, position) =>
    ⟨batchStart position, .unacceptable code position⟩

/-- How many bytes are read at once. -/
def readSize : Nat := 8192

/-- The characters that bytes write up to their first fault. -/
def decodable (bytes : List UInt8) : List Char :=
  match Utf8.decode bytes with
  | .ok text => text.toList
  | .error fault =>
    match Utf8.decode (bytes.take fault.position) with
    | .ok text => text.toList
    | .error _ => []

/-- The position of the byte at which a fault shows. One that shows at the end
of the bytes has none. -/
def shownAt? (fault : Utf8Fault) : Option Nat :=
  match fault.reason with
  | .badStart => some fault.position
  | .badContinuation => some (fault.position + fault.count)
  | .cutOff => none

/-- The batch for which the bytes with a fault must be read: the first one that
the characters before those bytes do not fill. A carriage return waits for the
character after it. -/
def ofFault (bytes : List UInt8) (fault : Utf8Fault) : Obstacle :=
  let before := match shownAt? fault with
    | some position => bytes.take (position - position % readSize)
    | none => bytes
  let characters := decodable before
  let settled := if characters.getLast? = some '\r' then characters.dropLast else characters
  ⟨batchStart (unifyLineEnds settled).length, .notText⟩

end Obstacle

namespace Characters

/-- The characters of a text, whose lines end with line feeds. -/
def ofContent (content : List Char) : Characters :=
  ⟨content, Obstacle.ofContent? content⟩

/-- The characters that bytes write. Of two obstacles the first one counts, and
of two in one batch that of the bytes. -/
def ofBytes (bytes : List UInt8) : Characters :=
  match Utf8.decode bytes with
  | .ok text => ofContent (unifyLineEnds text.toList)
  | .error fault =>
    let readable := ofContent (unifyLineEnds (Obstacle.decodable bytes))
    let undecodable := Obstacle.ofFault bytes fault
    match readable.obstacle? with
    | none => { readable with obstacle? := some undecodable }
    | some obstacle =>
      if undecodable.start ≤ obstacle.start then { readable with obstacle? := some undecodable }
      else readable

end Characters

end RunOnce.Yaml
