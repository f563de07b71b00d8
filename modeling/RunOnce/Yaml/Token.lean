import RunOnce.Yaml.Problem

/-!
# Tokens

The tokens of YAML text, with the positions at which they start and end.
-/

namespace RunOnce.Yaml

/-- What a directive says. -/
inductive Directive
  | version (major minor : Nat)
  | tag (handle stem : String)
  | other (name : String)
deriving DecidableEq, Repr

/-- The text of a scalar. -/
structure ScalarText where
  /-- Its codes, of which some may be no characters. -/
  codes : List Nat
  /-- Whether it was written without quotes or indicators. -/
  isPlain : Bool
deriving DecidableEq, Repr

/-- A text of characters. -/
def ScalarText.ofChars (cs : List Char) (isPlain : Bool) : ScalarText :=
  ⟨cs.map Char.toNat, isPlain⟩

/-- The kinds of tokens. -/
inductive TokenKind
  | streamStart
  | streamEnd
  | directive (content : Directive)
  | documentStart
  | documentEnd
  | blockSequenceStart
  | blockMappingStart
  | blockEnd
  | flowSequenceStart
  | flowSequenceEnd
  | flowMappingStart
  | flowMappingEnd
  | blockEntry
  | flowEntry
  | key
  | value
  | aliasOf (name : String)
  | anchor (name : String)
  | tag (handle : Option String) (suffix : String)
  | scalar (text : ScalarText)
deriving DecidableEq, Repr

/-- The name of a token in a message. -/
def TokenKind.label : TokenKind → String
  | streamStart => "<stream start>"
  | streamEnd => "<stream end>"
  | directive _ => "<directive>"
  | documentStart => "<document start>"
  | documentEnd => "<document end>"
  | blockSequenceStart => "<block sequence start>"
  | blockMappingStart => "<block mapping start>"
  | blockEnd => "<block end>"
  | flowSequenceStart => "["
  | flowSequenceEnd => "]"
  | flowMappingStart => "\x7b"
  | flowMappingEnd => "\x7d"
  | blockEntry => "-"
  | flowEntry => ","
  | key => "?"
  | value => ":"
  | aliasOf _ => "<alias>"
  | anchor _ => "<anchor>"
  | tag .. => "<tag>"
  | scalar _ => "<scalar>"

/-- A token with its place. -/
structure Token where
  kind : TokenKind
  start : Mark
  stop : Mark
deriving DecidableEq, Repr

end RunOnce.Yaml
