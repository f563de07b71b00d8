import RunOnce.Command.Console
import RunOnce.Command.Trouble
import RunOnce.Command.Usage
import RunOnce.Journal.Line

/-!
# Transcripts

A command leaves a transcript: what it noted on its way, what it wrote, and how
it ended. A report shows the transcript on the two output streams. Of the
events, a report shows those that are serious enough; a command that gives up
says why in its last line.
-/

namespace RunOnce.Command

open RunOnce.Journal
open RunOnce.Text

/-- What a command notes. -/
inductive Notice
  | event (event : Event)
  | status (status : Status) (message : String)
deriving DecidableEq, Repr

/-- How a command ends. -/
inductive Ending
  | completed
  | misused (error : UsageError)
  | gaveUp (trouble : Trouble)
  | escaped (cause : Escape)

/-- How a command ends that is given a text which cannot be a path. -/
def Ending.ofPathText? (text : String) : Option Ending :=
  if Files.Path.hasNul text then some (.escaped (.path ⟨.hasNul, .ofText text⟩)) else none

/-- What a command leaves behind. -/
structure Transcript where
  notices : List Notice := []
  output : String := ""
  ending : Ending := .completed
  /-- What codes that are no characters are kept as in the notices. -/
  standIns : StandIns := {}

/-- How a report ends: as its command did, or with a message that cannot be
shown. -/
inductive Conclusion
  | reached (ending : Ending)
  | unshowable (error : MarkupError)

/-- The exit code of a program that ends so. -/
def Conclusion.exitCode : Conclusion → Nat
  | reached .completed => 0
  | reached (.misused _) => 2
  | reached (.gaveUp trouble) => trouble.exitCode
  | reached (.escaped _) | unshowable _ => 1

/-- A transcript as the output streams show it. -/
structure Report where
  output : String := ""
  errors : String := ""
  conclusion : Conclusion

/-- A report whose error stream shows codes that are no characters by their escapes. -/
def Report.spellOut (standIns : StandIns) (report : Report) : Report :=
  { report with errors := standIns.spellOut report.errors }

@[simp]
theorem Report.conclusion_spellOut (standIns : StandIns) (report : Report) :
    (report.spellOut standIns).conclusion = report.conclusion :=
  rfl

@[simp]
theorem Report.output_spellOut (standIns : StandIns) (report : Report) :
    (report.spellOut standIns).output = report.output :=
  rfl

/-- The text of a notice. -/
def Notice.text (threshold : Nat) : Notice → Except MarkupError String
  | event happened => .ok (String.join ((linesFrom threshold [happened.record]).map (· ++ "\n")))
  | status kind message => kind.line message

/-- The texts of notices, up to one that cannot be shown. -/
def showNotices (threshold : Nat) : List Notice → String × Option MarkupError
  | [] => ("", none)
  | notice :: notices =>
    match notice.text threshold with
    | .error error => ("", some error)
    | .ok text =>
      let (others, error) := showNotices threshold notices
      (text ++ others, error)

namespace Transcript

/-- What is noted, the last words of a command that gives up included. -/
def allNotices (transcript : Transcript) : List Notice :=
  match transcript.ending with
  | .gaveUp trouble => transcript.notices ++ [.status .error trouble.message]
  | _ => transcript.notices

/-- Show a transcript. -/
def report (threshold : Nat) (transcript : Transcript) : Report :=
  match showNotices threshold transcript.allNotices with
  | (errors, none) => ⟨plainOutput transcript.output, errors, .reached transcript.ending⟩
  | (errors, some error) => ⟨plainOutput transcript.output, errors, .unshowable error⟩

/-- A command that was misused leaves nothing else. -/
def ofMisuse (error : UsageError) : Transcript :=
  { ending := .misused error }

/-- A command that gives up after some events. -/
def ofTrouble (events : List Event) (trouble : Trouble) (standIns : StandIns := {}) :
    Transcript :=
  { notices := events.map .event, ending := .gaveUp trouble, standIns := standIns }

end Transcript

end RunOnce.Command
