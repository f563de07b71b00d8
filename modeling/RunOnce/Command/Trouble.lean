import RunOnce.Failure
import RunOnce.Source.Compilation
import RunOnce.Source.Configuration

/-!
# Troubles of commands

Why a command gives up, what the user is told, and the code that it ends with.
Files that cannot be found, read or written end with two, everything else with
one. Some causes are not foreseen by the commands; those escape them.
-/

namespace RunOnce.Command

open RunOnce.Document
open RunOnce.Files
open RunOnce.Source

/-- What is known about a text that is not YAML. -/
structure SyntaxReport where
  problem : Option String := none
  mark : Option Yaml.Mark := none
  /-- The file that the mark is in. -/
  file : String
deriving Repr

namespace SyntaxReport

/-- All that is known. -/
def fullText (report : SyntaxReport) : String :=
  let place := report.mark.map fun mark =>
    "  in \"" ++ report.file ++ "\", line " ++ toString (mark.line + 1) ++ ", column " ++
      toString (mark.column + 1)
  "\n".intercalate (report.problem.toList ++ place.toList)

/-- The text of the problem, or else all that is known. -/
def problemText (report : SyntaxReport) : String :=
  match report.problem with
  | some problem => if problem = "" then report.fullText else problem
  | none => report.fullText

/-- What the user is told: where the problem is, if that is known. -/
def text (report : SyntaxReport) : String :=
  match report.mark with
  | some mark =>
    "YAML syntax error at line " ++ toString (mark.line + 1) ++ ", column " ++
      toString (mark.column + 1) ++ ": " ++ report.problemText
  | none => report.fullText

end SyntaxReport

/-- Why a project file is of no use. -/
inductive LoadTrouble
  | missing
  | denied
  | invalid (issues : List Issue)
  | malformed (report : SyntaxReport)
  | other (text : String)
deriving Repr

/-- The exit code for a mistake of the user. -/
def userMistake : Nat := 1

/-- The exit code for files that are out of reach. -/
def systemTrouble : Nat := 2

/-- Why a command gives up. -/
inductive Trouble
  | invalidSettings (issues : List Issue)
  | compilation (failure : Failure)
  | validation (failure : Failure)
  | undeclared (count : Nat)
  | load (path : String) (trouble : LoadTrouble)
  | denied (operation path : String)
  | unwritable (path : String) (cause : Files.Cause)
  | schemaExport (fault : Fault)
deriving Repr

namespace Trouble

/-- What the user is told. -/
def message : Trouble → String
  | invalidSettings issues => "Invalid settings:\n" ++ issuesMessage issues
  | compilation failure => "Compilation failed: " ++ failure.message
  | validation failure => "Validation failed: " ++ failure.message
  | undeclared count =>
    "Validation failed: " ++ toString count ++ " undeclared target reference(s)"
  | load path .missing =>
    "File not found: " ++ path ++
      "\n\nUse --file to point at an evaluated project model (YAML or JSON)."
  | load path .denied => "Permission denied: Cannot read " ++ path
  | load path (.invalid issues) =>
    "Invalid project model in " ++ path ++ ":\n" ++ issuesMessage issues
  | load path (.malformed report) => "Invalid YAML in " ++ path ++ ": " ++ report.text
  | load path (.other text) => "Cannot load " ++ path ++ ": " ++ text
  | denied operation path => "Permission denied: Cannot " ++ operation ++ " " ++ path
  | unwritable path cause => "Cannot write " ++ path ++ ": " ++ cause.text
  | schemaExport fault => "Schema export failed: " ++ fault.message

/-- The code that the command ends with. -/
def exitCode : Trouble → Nat
  | load _ .missing | load _ .denied | denied .. | unwritable .. | schemaExport _ => systemTrouble
  | _ => userMistake

end Trouble

/-- A cause that no command foresees. -/
inductive Escape
  | settings (error : SettingsError)
  | load (error : LoadError)
  | path (fault : Fault)
  /-- A program has codes that are no characters. -/
  | encoding

/-- The issue with a default target whose name has codes that are no characters. -/
def damagedEntryIssue : Issue :=
  ⟨[.key "default_target"], .damagedText⟩

/-- The trouble with a project file that is shown under the given path. Bytes
that are no text, scalars that are no values and too many nodes within one another are not
foreseen. -/
def Trouble.ofLoadError (shown : String) (path : Path) : LoadError → Except Escape Trouble
  | .missing _ => .ok (.load shown .missing)
  | .unavailable fault =>
    .ok (.load shown (if fault.cause = .denied then .denied else .other fault.message))
  | .malformed (.at problem mark) =>
    .ok (.load shown (.malformed ⟨some problem.text, some mark, path.text⟩))
  | .malformed (.unacceptable code position) =>
    .ok (.load shown
      (.malformed ⟨some (Yaml.unacceptableText code position path.text), none, path.text⟩))
  | .invalid issues => .ok (.load shown (.invalid issues))
  | error => .error (.load error)

end RunOnce.Command
