import RunOnce.Command.Usage
import RunOnce.Text.Resemblance

/-!
# Words of a command line

Options are told from other words by the hyphens that they start with. A long
option stands alone and may carry its value after an equals sign. Short options
may be run together, and the first of them that takes a value takes the rest of
its word. An option without a value of its own takes the next word. Two hyphens
end the options.
-/

namespace RunOnce.Command

open RunOnce.Text

/-- What an option does to the list of what was given. -/
inductive Effect (α : Type)
  /-- The option itself says all. -/
  | flag (given : α)
  /-- The option needs a value. -/
  | valued (given : String → α)

/-- The options of a command, by name. -/
abbrev Options (α : Type) := List (String × Effect α)

/-- What was given on a command line, in order. -/
structure Words (α : Type) where
  given : List α := []
  others : List String := []
deriving DecidableEq, Repr

/-- The effect of an option. -/
def Options.find? {α : Type} (options : Options α) (name : String) : Option (Effect α) :=
  (List.find? (fun option => option.1 == name) options).map Prod.snd

/-- The names of the long options. -/
def Options.longNames {α : Type} (options : Options α) : List String :=
  (options.map Prod.fst).filter fun name => ['-', '-'].isPrefixOf name.toList

/-- The effect of a long option. A name that is not known is told together with
those that resemble it. -/
def Options.findLong {α : Type} (options : Options α) (name : String) :
    Except UsageError (Effect α) :=
  match options.find? name with
  | some effect => .ok effect
  | none => .error (.unknownOption name (closeMatches name options.longNames))

/-- The effect of a short option. -/
def Options.findShort {α : Type} (options : Options α) (name : String) :
    Except UsageError (Effect α) :=
  match options.find? name with
  | some effect => .ok effect
  | none => .error (.unknownOption name)

/-- A word that starts with hyphens: what it gives, and the option in it that
still needs a value, if there is one. -/
structure Hyphenated (α : Type) where
  given : List α := []
  waiting : Option (String × (String → α)) := none

/-- Read a long option. -/
def readLong {α : Type} (options : Options α) (word : List Char) :
    Except UsageError (Hyphenated α) := do
  let name := String.ofList (word.takeWhile (· ≠ '='))
  match ← options.findLong name, word.dropWhile (· ≠ '=') with
  | .flag given, [] => .ok { given := [given] }
  | .flag _, _ :: _ => .error (.unexpectedValue name)
  | .valued make, [] => .ok { waiting := some (name, make) }
  | .valued make, _ :: value => .ok { given := [make (String.ofList value)] }

/-- Read the letters of short options. -/
def readShort {α : Type} (options : Options α) :
    List Char → Except UsageError (Hyphenated α)
  | [] => .ok {}
  | letter :: rest => do
    let name := String.ofList ['-', letter]
    match ← options.findShort name with
    | .flag given =>
      let others ← readShort options rest
      .ok { others with given := given :: others.given }
    | .valued make =>
      if rest.isEmpty then .ok { waiting := some (name, make) }
      else .ok { given := [make (String.ofList rest)] }

/-- Read a word that starts with a hyphen. -/
def readHyphenated {α : Type} (options : Options α) (word : List Char) :
    Except UsageError (Hyphenated α) :=
  if ['-', '-'].isPrefixOf word then readLong options word else readShort options (word.drop 1)

/-- Whether a word is an option. A hyphen alone is none. -/
def isOption (word : String) : Bool :=
  ['-'].isPrefixOf word.toList && decide (1 < word.toList.length)

/-- Read the words of a command line. Unless options may follow other words, the
first other word ends the options. -/
def readWords {α : Type} (options : Options α) (mixed : Bool) :
    List String → Except UsageError (Words α)
  | [] => .ok {}
  | word :: rest =>
    if word = "--" then .ok { others := rest }
    else if isOption word then
      match readHyphenated options word.toList, rest with
      | .error error, _ => .error error
      | .ok ⟨given, none⟩, rest => do
        let words ← readWords options mixed rest
        .ok { words with given := given ++ words.given }
      | .ok ⟨_, some (name, _)⟩, [] => .error (.missingValue name)
      | .ok ⟨given, some (_, make)⟩, value :: rest => do
        let words ← readWords options mixed rest
        .ok { words with given := given ++ make value :: words.given }
    else if mixed then do
      let words ← readWords options mixed rest
      .ok { words with others := word :: words.others }
    else .ok { others := word :: rest }

/-- Refuse words that are no options. -/
def Words.onlyOptions {α : Type} (words : Words α) : Except UsageError (List α) :=
  if words.others.isEmpty then .ok words.given else .error (.extraArguments words.others)

end RunOnce.Command
