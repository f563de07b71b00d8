import RunOnce.Text.Digit

/-!
# SHA-256

The digest of a byte string. The message is padded to blocks of sixteen words.
Each block is mixed into eight words of state in sixty-four rounds, for which
the sixteen words of the block are extended one word at a time.
-/

namespace RunOnce.Digest

open RunOnce.Text

/-- The state of a digest. -/
structure Words where
  a : UInt32
  b : UInt32
  c : UInt32
  d : UInt32
  e : UInt32
  f : UInt32
  g : UInt32
  h : UInt32
deriving DecidableEq, Repr

namespace Words

/-- The fractional parts of the square roots of the first eight primes. -/
def start : Words :=
  ⟨0x6a09e667, 0xbb67ae85, 0x3c6ef372, 0xa54ff53a, 0x510e527f, 0x9b05688c, 0x1f83d9ab, 0x5be0cd19⟩

/-- Word-wise sum. -/
def add (x y : Words) : Words :=
  ⟨x.a + y.a, x.b + y.b, x.c + y.c, x.d + y.d, x.e + y.e, x.f + y.f, x.g + y.g, x.h + y.h⟩

/-- The words in order. -/
def toList (x : Words) : List UInt32 :=
  [x.a, x.b, x.c, x.d, x.e, x.f, x.g, x.h]

end Words

/-- The fractional parts of the cube roots of the first sixty-four primes. -/
def roundConstants : List UInt32 := [
  0x428a2f98, 0x71374491, 0xb5c0fbcf, 0xe9b5dba5, 0x3956c25b, 0x59f111f1, 0x923f82a4, 0xab1c5ed5,
  0xd807aa98, 0x12835b01, 0x243185be, 0x550c7dc3, 0x72be5d74, 0x80deb1fe, 0x9bdc06a7, 0xc19bf174,
  0xe49b69c1, 0xefbe4786, 0x0fc19dc6, 0x240ca1cc, 0x2de92c6f, 0x4a7484aa, 0x5cb0a9dc, 0x76f988da,
  0x983e5152, 0xa831c66d, 0xb00327c8, 0xbf597fc7, 0xc6e00bf3, 0xd5a79147, 0x06ca6351, 0x14292967,
  0x27b70a85, 0x2e1b2138, 0x4d2c6dfc, 0x53380d13, 0x650a7354, 0x766a0abb, 0x81c2c92e, 0x92722c85,
  0xa2bfe8a1, 0xa81a664b, 0xc24b8b70, 0xc76c51a3, 0xd192e819, 0xd6990624, 0xf40e3585, 0x106aa070,
  0x19a4c116, 0x1e376c08, 0x2748774c, 0x34b0bcb5, 0x391c0cb3, 0x4ed8aa4a, 0x5b9cca4f, 0x682e6ff3,
  0x748f82ee, 0x78a5636f, 0x84c87814, 0x8cc70208, 0x90befffa, 0xa4506ceb, 0xbef9a3f7, 0xc67178f2]

/-- Turn a word to the right. -/
def turn (word amount : UInt32) : UInt32 :=
  (word >>> amount) ||| (word <<< (32 - amount))

/-- The next word of a schedule, from the sixteen before it. -/
def nextWord (window : List UInt32) : UInt32 :=
  let early := window.getD 1 0
  let late := window.getD 14 0
  window.getD 0 0 + (turn early 7 ^^^ turn early 18 ^^^ (early >>> 3)) + window.getD 9 0 +
    (turn late 17 ^^^ turn late 19 ^^^ (late >>> 10))

/-- One round, with the sum of its constant and its word. -/
def round (input : UInt32) (x : Words) : Words :=
  let choice := (x.e &&& x.f) ^^^ ((x.e ^^^ 0xffffffff) &&& x.g)
  let majority := (x.a &&& x.b) ^^^ (x.a &&& x.c) ^^^ (x.b &&& x.c)
  let first := x.h + (turn x.e 6 ^^^ turn x.e 11 ^^^ turn x.e 25) + choice + input
  let second := (turn x.a 2 ^^^ turn x.a 13 ^^^ turn x.a 22) + majority
  ⟨first + second, x.a, x.b, x.c, x.d + first, x.e, x.f, x.g⟩

/-- The rounds for a list of constants. The window holds the next sixteen words
of the schedule. -/
def rounds : List UInt32 → List UInt32 → Words → Words
  | [], _, state => state
  | constant :: constants, window, state =>
    rounds constants (window.drop 1 ++ [nextWord window])
      (round (constant + window.getD 0 0) state)

/-- Mix a block into a state. -/
def absorb (state : Words) (block : List UInt32) : Words :=
  state.add (rounds roundConstants block state)

/-- The four bytes of a word, the most significant first, as digits in base 256. -/
def wordOfBytes (bytes : List UInt8) : UInt32 :=
  bytes.foldl (fun word byte => (word <<< 8) ||| byte.toUInt32) 0

/-- Cut a list into so many parts of a given length. -/
def parts {α : Type} (length : Nat) : Nat → List α → List (List α)
  | 0, _ => []
  | count + 1, items => items.take length :: parts length count (items.drop length)

/-- The low bytes of a number, the most significant first. -/
def bytesOf : Nat → Nat → List UInt8
  | 0, _ => []
  | count + 1, n => bytesOf count (n / 256) ++ [n.toUInt8]

/-- A message with its padding: a set bit, zeros up to the last eight bytes of a
block, and the length of the message in bits. -/
def pad (message : List UInt8) : List UInt8 :=
  let zeros := (119 - message.length % 64) % 64
  message ++ 0x80 :: List.replicate zeros 0 ++ bytesOf 8 (8 * message.length)

/-- The blocks of a padded message. -/
def blocks (padded : List UInt8) : List (List UInt32) :=
  (parts 64 (padded.length / 64) padded).map fun block => (parts 4 16 block).map wordOfBytes

/-- The digest of a byte string. -/
def sha256 (message : List UInt8) : Words :=
  (blocks (pad message)).foldl absorb .start

/-- The digest of a byte string in hexadecimal. -/
def sha256Hex (message : List UInt8) : String :=
  String.ofList ((sha256 message).toList.flatMap fun word => hexPadded 8 word.toNat)

/-- The length of the bytes of a number is the number asked for. -/
@[simp]
theorem length_bytesOf (count n : Nat) : (bytesOf count n).length = count := by
  induction count generalizing n with
  | zero => rfl
  | succ count inductionHypothesis => simp [bytesOf, inductionHypothesis]

/-- A padded message consists of whole blocks. -/
theorem length_pad_mod (message : List UInt8) : (pad message).length % 64 = 0 := by
  simp only [pad, List.append_assoc, List.cons_append, List.length_append, List.length_cons,
    List.length_replicate, length_bytesOf]
  omega

end RunOnce.Digest
