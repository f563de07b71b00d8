import RunOnce.Text.Quoted

/-!
# Stand-ins

A text may have codes that are no characters, such as halves of characters. Each of them
is kept as a stand-in: a character that is in use nowhere else. So these texts are
compared, searched and joined like others, and are known again where they go: they cannot
be encoded, and an error message shows the codes by their escapes.
-/

namespace RunOnce.Text

/-- Codes that are no characters, each with its stand-in. -/
structure StandIns where
  pairs : List (Nat × Char) := []
deriving Repr

namespace StandIns

/-- How many characters may stand in. -/
def candidateCount : Nat := 0x102100

/-- The characters that may stand in, in the order in which they are tried: printable
signs that are no part of any word, then characters for private use and those after
them. -/
def candidate (index : Nat) : Char :=
  Char.ofNat (if index < 0x100 then 0x2800 + index else 0xE000 + (index - 0x100))

/-- The first character that may stand in and is not in use. -/
def fresh (used : List Char) : Char :=
  (((List.range (used.length + 1)).map candidate).find? fun c => !used.contains c).getD '\uFFFD'

/-- Choose a stand-in for each code. -/
def choose (used : List Char) : List Nat → List (Nat × Char)
  | [] => []
  | code :: codes =>
    let standIn := fresh used
    (code, standIn) :: choose (standIn :: used) codes

/-- The codes of texts that are no characters. -/
def damage (texts : List (List Nat)) : List Nat :=
  (texts.flatten.filter fun code => (charOfCode? code).isNone).eraseDups

/-- The characters of texts, and others. -/
def inUse (texts : List (List Nat)) (others : List Char) : List Char :=
  (texts.flatten.filterMap charOfCode? ++ others).eraseDups

/-- Stand-ins for the codes of texts that are no characters. They are told apart from the
characters of the texts, and from others. -/
def ofTexts (texts : List (List Nat)) (others : List Char) : StandIns :=
  match damage texts with
  | [] => {}
  | codes => ⟨choose (inUse texts others) codes⟩

/-- The character that a code is kept as. -/
def charOf (standIns : StandIns) (code : Nat) : Char :=
  (charOfCode? code).getD
    (((standIns.pairs.find? fun pair => pair.1 == code).map Prod.snd).getD '\uFFFD')

/-- The text that codes are kept as. -/
def textOf (standIns : StandIns) (codes : List Nat) : String :=
  String.ofList (codes.map standIns.charOf)

/-- The code that a character stands in for. -/
def code? (standIns : StandIns) (c : Char) : Option Nat :=
  (standIns.pairs.find? fun pair => pair.2 == c).map Prod.fst

/-- The codes that are kept as a text. -/
def codesOf (standIns : StandIns) (text : String) : List Nat :=
  text.toList.map fun c => (standIns.code? c).getD c.toNat

/-- Whether a text is as it is: nothing in it stands for something else. -/
def areAbsentFrom (standIns : StandIns) (text : String) : Bool :=
  text.toList.all fun c => (standIns.code? c).isNone

/-- A text with the escapes of the codes that characters stand in for. -/
def spellOut (standIns : StandIns) (text : String) : String :=
  String.ofList (text.toList.flatMap fun c =>
    match standIns.code? c with
    | some code => Quoted.codeEscape code
    | none => [c])

end StandIns

end RunOnce.Text
