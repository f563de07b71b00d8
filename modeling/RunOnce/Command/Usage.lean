import RunOnce.Text.Quoted

/-!
# Misuse of commands

What can be wrong with the words of a command line, and how that is told.
-/

namespace RunOnce.Command

open RunOnce.Text

/-- What is wrong with the value of an option. -/
inductive ValueProblem
  | notInteger (given : String)
  | outOfRange (value : Int) (low high : Nat)
  | notChoice (given : String) (choices : List String)
  | isDirectory (given : String)
  | notAssignment (given : String)
deriving DecidableEq, Repr

/-- The text of a problem with a value. -/
def ValueProblem.text : ValueProblem → String
  | notInteger given => Quoted.encode given ++ " is not a valid integer range."
  | outOfRange value low high =>
    toString value ++ " is not in the range " ++ toString low ++ "<=x<=" ++ toString high ++ "."
  | notChoice given choices =>
    Quoted.encode given ++ " is not one of " ++ ", ".intercalate (choices.map Quoted.encode) ++ "."
  | isDirectory given => "File " ++ Quoted.encode given ++ " is a directory."
  | notAssignment given => "expected NAME=VALUE, got '" ++ given ++ "'"

/-- Misuse of a command. -/
inductive UsageError
  /-- An option that there is not, with names of options that resemble it. -/
  | unknownOption (name : String) (similar : List String := [])
  | missingValue (name : String)
  | unexpectedValue (name : String)
  | extraArguments (arguments : List String)
  | missingCommand
  /-- A command that there is not, with names of commands that resemble it. -/
  | unknownCommand (name : String) (similar : List String := [])
  /-- A value that an option, under all its names, cannot have. -/
  | badValue (names : List String) (problem : ValueProblem)
deriving DecidableEq, Repr

/-- The question whether one of some names was meant. -/
def suggestion : List String → String
  | [] => ""
  | [name] => " Did you mean " ++ Quoted.encode name ++ "?"
  | names => " (Did you mean one of: " ++ ", ".intercalate (names.map Quoted.encode) ++ "?)"

/-- The message about a misuse. -/
def UsageError.message : UsageError → String
  | unknownOption name similar =>
    "No such option " ++ Quoted.encode name ++ "." ++ suggestion similar
  | missingValue name => "Option " ++ Quoted.encode name ++ " requires an argument."
  | unexpectedValue name => "Option " ++ Quoted.encode name ++ " does not take a value."
  | extraArguments arguments =>
    "Got unexpected extra argument" ++ (if arguments.length = 1 then "" else "s") ++ " (" ++
      " ".intercalate arguments ++ ")"
  | missingCommand => "Missing command."
  | unknownCommand name similar =>
    "No such command " ++ Quoted.encode name ++ "." ++ suggestion similar
  | badValue names problem =>
    (if names.isEmpty then "Invalid value: "
      else "Invalid value for " ++ " / ".intercalate (names.map Quoted.encode) ++ ": ") ++
      problem.text

end RunOnce.Command
