/-!
# Resemblance of texts

Two texts resemble each other by the characters that they have in common: the
longest block that stands in both, and then what the texts have in common
before and after it. Texts that resemble a given one closely enough are offered
in its place, the best ones first.
-/

namespace RunOnce.Text

/-- A block that stands in two texts: how many characters stand before it in
each, and how many it has. -/
structure Block where
  first : Nat := 0
  second : Nat := 0
  size : Nat := 0
deriving DecidableEq, Repr

/-- How many characters two texts start with in common. -/
def commonStart : List Char → List Char → Nat
  | c :: cs, d :: ds => if c = d then commonStart cs ds + 1 else 0
  | _, _ => 0

/-- The larger of two blocks, the first one if they are of one size. -/
def Block.larger (one other : Block) : Block :=
  if one.size < other.size then other else one

/-- The longest block at the start of a text that stands in another, which is
searched from a given place on. -/
def longestAtStart (first second : Nat) (cs : List Char) : List Char → Block
  | [] => {}
  | d :: ds =>
    Block.larger ⟨first, second, commonStart cs (d :: ds)⟩
      (longestAtStart first (second + 1) cs ds)

/-- The longest block of two texts, the first of which is searched from a given
place on. Of several the one that starts first is taken. -/
def longestBlock (first : Nat) (ds : List Char) : List Char → Block
  | [] => {}
  | c :: cs => Block.larger (longestAtStart first 0 (c :: cs) ds) (longestBlock (first + 1) ds cs)

/-- How many characters two texts have in common. A block stands inside of both
texts, so that what is left of them is shorter. -/
def charactersInCommon (cs ds : List Char) : Nat :=
  match longestBlock 0 ds cs with
  | ⟨first, second, size⟩ =>
    if _inside : 0 < size ∧ first + size ≤ cs.length then
      charactersInCommon (cs.take first) (ds.take second) + size +
        charactersInCommon (cs.drop (first + size)) (ds.drop (second + size))
    else 0
termination_by cs.length
decreasing_by all_goals simp only [List.length_take, List.length_drop]; omega

/-- How much two texts resemble each other, as a fraction of all characters. -/
structure Resemblance where
  common : Nat
  total : Nat
deriving DecidableEq, Repr

namespace Resemblance

/-- How much a text resembles a word. -/
def between (word text : String) : Resemblance where
  common := charactersInCommon text.toList word.toList
  total := text.length + word.length

/-- At least three fifths of the characters, counted in both texts, are in
common. -/
def isClose (resemblance : Resemblance) : Bool :=
  decide (3 * resemblance.total ≤ 10 * resemblance.common)

/-- Whether one resemblance is greater than another. -/
def exceeds (first second : Resemblance) : Bool :=
  decide (second.common * first.total < first.common * second.total)

end Resemblance

/-- Whether one text is a better substitute than another: it resembles the word
more, or as much and comes later in the order of texts. -/
def isBetterMatch (word first second : String) : Bool :=
  let one := Resemblance.between word first
  let other := Resemblance.between word second
  one.exceeds other || (!other.exceeds one && decide (second < first))

/-- Of some texts the three that resemble a word best, in their own order. -/
def closeMatches (word : String) (texts : List String) : List String :=
  let close := texts.filter fun text => (Resemblance.between word text).isClose
  let best := (close.mergeSort fun a b => !isBetterMatch word b a).take 3
  best.mergeSort fun a b => !decide (b < a)

end RunOnce.Text
