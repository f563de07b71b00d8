import RunOnce.Assoc
import RunOnce.Document.Scalar

/-!
# Reading fields

A model is read from a mapping. Its fields are read in the order in which the
model declares them, and any other key is an issue, in the order of the
document.
-/

namespace RunOnce.Document

/-- The entries of a mapping. -/
abbrev Fields := List (Value × Value)

namespace Fields

/-- Whether a key is a given name. -/
def isNamed (name : String) : Value → Bool
  | .text key => key == name
  | _ => false

/-- The value of a field. -/
def get? (fields : Fields) (name : String) : Option Value :=
  (fields.find? fun field => isNamed name field.1).map Prod.snd

/-- Read a field that must be there. -/
def required {α : Type} (fields : Fields) (name : String) (read : Value → Checked α) :
    Checked α :=
  match fields.get? name with
  | some value => (read value).under (.key name)
  | none => .invalid [⟨[.key name], .missing⟩]

/-- Read a field that may be left out. -/
def optional {α : Type} (fields : Fields) (name : String) (read : Value → Checked α)
    (default : α) : Checked α :=
  match fields.get? name with
  | some value => (read value).under (.key name)
  | none => .valid default

/-- The issue with a key that is none of the known names. -/
def strangerIssue? (known : List String) : Value → Option Issue
  | .text name => if name ∈ known then none else some ⟨[.key name], .unknownField⟩
  | key => some ⟨[Step.ofKey key], .badKey⟩

/-- Accept no keys but the known names. -/
def onlyKnown (fields : Fields) (known : List String) : Checked Unit :=
  match fields.filterMap fun field => strangerIssue? known field.1 with
  | [] => .valid ()
  | issues => .invalid issues

/-- Whether a key is a text with codes that are no characters. -/
def isDamaged : Value → Bool
  | .damagedText .. => true
  | _ => false

end Fields

/-- Read a model from the fields of a mapping. A key that is no proper text
leaves nothing else to be said. -/
def readFields {α : Type} (read : Fields → Checked α) (fields : Fields) : Checked α :=
  if fields.any fun field => Fields.isDamaged field.1 then .issue .damagedText else read fields

/-- Read a model of a kind from a mapping. -/
def readModel {α : Type} (kind : String) (read : Fields → Checked α) : Value → Checked α
  | .mapping fields _ => readFields read fields
  | _ => .issue (.notModel kind)

/-- Read a list, which may be given as a pair or a set. -/
def readList {α : Type} (read : Value → Checked α) : Value → Checked (List α)
  | .list items _ | .set items => .each read 0 items
  | .pair first second => .each read 0 [first, second]
  | _ => .issue .notList

/-- The issue with a key that should be a text. -/
def textKey (key : Value) : Checked String :=
  ((readText key).under (.key "[key]")).under (Step.ofKey key)

/-- Read the entries of a mapping from texts to texts. -/
def readTextEntries : Fields → Checked (List (String × String))
  | [] => .valid []
  | (key, value) :: rest =>
    ((textKey key).map Prod.mk).seq ((readText value).under (Step.ofKey key))
      |>.map List.cons |>.seq (readTextEntries rest)

/-- Read a mapping from texts to texts. Keys that are read as the same text, as a
text and its bytes are, are one key: it keeps its first place and its last value. -/
def readTextMapping : Value → Checked (List (String × String))
  | .mapping entries _ => (readTextEntries entries).map Assoc.ofList
  | _ => .issue .notMapping

end RunOnce.Document
