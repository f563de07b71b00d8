import RunOnce.Proofs.Command.Endings

/-!
# What failed commands leave behind

Compiling that fails before it writes its program leaves all files as they are and
writes nothing to the output stream. Validating does so whatever it finds; only when
help is asked for does it write how the command is used.
-/

namespace RunOnce.Command

open RunOnce.Compile
open RunOnce.Files
open RunOnce.Journal

/-- Whether a command ends over a file that it cannot write. -/
def Ending.isOnWriting : Ending → Bool
  | .gaveUp (.denied ..) | .gaveUp (.unwritable ..) => true
  | _ => false

theorem isOnWriting_writeTrouble (shown : String) (fault : Fault) :
    (Ending.gaveUp (CompileCommand.writeTrouble shown fault)).isOnWriting = true := by
  unfold CompileCommand.writeTrouble
  split <;> rfl

theorem code?_of_isOnWriting {ending : Ending} (onWriting : ending.isOnWriting = true) :
    (Conclusion.reached ending).code? = some systemTrouble := by
  unfold Ending.isOnWriting at onWriting
  split at onWriting
  · rfl
  · rfl
  · cases onWriting

theorem output_report (threshold : Nat) (transcript : Transcript) :
    (transcript.report threshold).output = plainOutput transcript.output := by
  unfold Transcript.report
  obtain ⟨errors, error?⟩ := showNotices threshold transcript.allNotices
  cases error? <;> rfl

/-- Only a status line can keep a command from the end that it has come to. -/
theorem conclusion_report_of_events (threshold : Nat) {transcript : Transcript}
    (events : ∀ notice ∈ transcript.allNotices, ∃ happened, notice = .event happened) :
    (transcript.report threshold).conclusion = .reached transcript.ending := by
  rw [conclusion_report]
  cases unshown : (showNotices threshold transcript.allNotices).2 with
  | none => rfl
  | some error =>
    obtain ⟨status, message, _, noted, _⟩ := exists_unshown_iff.mp ⟨error, unshown⟩
    obtain ⟨happened, ⟨⟩⟩ := events _ noted

variable {environment : List (String × String)} {words rest : List String} {threshold : Nat}
  {command : CommandKind} {tree : Tree}

namespace CompileCommand

/-- Whether compiling gets as far as a program that is to be written to a file. -/
def Writes (environment : List (String × String)) (words : List String) (tree : Tree) : Prop :=
  ∃ request events program shown, opening words tree = .asked request ∧
    Compiles environment request tree events (.ok program) ∧ request.output = some shown

/-- What compiling writes to the output stream is complete, and no status line follows. -/
theorem Course.output_cases {transcript : Transcript} {after : Tree}
    (course : Course environment words tree transcript after) :
    transcript.output = "" ∨
      transcript.ending = .completed ∧
        ∀ notice ∈ transcript.allNotices, ∃ happened, notice = .event happened := by
  cases course with
  | helped => exact .inr ⟨rfl, by simp [Transcript.allNotices]⟩
  | printed =>
    refine .inr ⟨rfl, ?_⟩
    intro notice noted
    obtain ⟨happened, _, rfl⟩ : ∃ happened ∈ _, Notice.event happened = notice := by
      simpa [Transcript.allNotices] using noted
    exact ⟨happened, rfl⟩
  | refused | unsettled | unloaded | failed | misnamed | unprinted | written | emptied
  | unwritten => exact .inl rfl

/-- Only writing the program leaves another tree, and no other failure comes so late. -/
theorem Course.tree_cases {transcript : Transcript} {after : Tree}
    (course : Course environment words tree transcript after) :
    after = tree ∨
      Writes environment words tree ∧
        (transcript.ending = .completed ∨ transcript.ending.isOnWriting ∨
          transcript.ending = .escaped .encoding) := by
  cases course with
  | helped | refused | unsettled | unloaded | failed | misnamed | printed | unprinted =>
    exact .inl rfl
  | written opens compiles toFile => exact .inr ⟨⟨_, _, _, _, opens, compiles, toFile⟩, .inl rfl⟩
  | emptied opens compiles toFile =>
    exact .inr ⟨⟨_, _, _, _, opens, compiles, toFile⟩, .inr (.inr rfl)⟩
  | @unwritten _ _ _ shown _ _ opens compiles toFile =>
    exact .inr ⟨⟨_, _, _, _, opens, compiles, toFile⟩,
      .inr (.inl (isOnWriting_writeTrouble shown _))⟩

end CompileCommand

/-- Validating writes nothing to the output stream unless help is asked for. -/
theorem ValidateCommand.Course.output_cases {transcript : Transcript}
    (course : ValidateCommand.Course environment words tree transcript) :
    transcript.output = "" ∨ ValidateCommand.opening words = .helped := by
  cases course with
  | helped opens => exact .inr opens
  | refused | unloaded | unsettled => exact .inl rfl
  | checked => exact .inl (ValidateCommand.validateUnder_cases _ _ _).1

namespace CommandLine

/-- Compiling that does not reach its end has written nothing to the output stream. Its
files are as before unless it got as far as a program for a file, and then it has ended
well, could not write that file or could not encode the program. Validating leaves all
files as they are, and writes nothing to the output stream unless help is asked for. -/
theorem failed_commands_leave_no_trace (environment : List (String × String))
    (called : readPreamble words = .ok (.proceed threshold (command.name :: rest)))
    (tree : Tree) :
    (command = .compile →
      ((answer (run environment words) tree).conclusion ≠ .reached .completed →
        (answer (run environment words) tree).output = "") ∧
      ((perform (run environment words) tree).2 = tree ∨
        CompileCommand.Writes environment rest tree ∧
          ((answer (runCommand environment .compile rest) tree).ending = .completed ∨
            (answer (runCommand environment .compile rest) tree).ending.isOnWriting ∨
            (answer (runCommand environment .compile rest) tree).ending =
              .escaped .encoding))) ∧
    (command = .validate →
      (perform (run environment words) tree).2 = tree ∧
      ((answer (run environment words) tree).output = "" ∨
        ValidateCommand.opening rest = .helped)) := by
  have left : (perform (run environment words) tree).2 =
      (perform (runCommand environment command rest) tree).2 :=
    congrArg Prod.snd (perform_run called environment tree)
  rw [answer_run called, left, Report.conclusion_spellOut, Report.output_spellOut, output_report]
  constructor
  · rintro rfl
    have course := CompileCommand.course_run environment rest tree
    refine ⟨?_, course.tree_cases⟩
    intro unfinished
    obtain nothing | ⟨completed, events⟩ := course.output_cases
    · exact congrArg plainOutput nothing
    · refine absurd ?_ unfinished
      rw [← completed]
      exact conclusion_report_of_events threshold events
  · rintro rfl
    refine ⟨ValidateCommand.keeps_run environment rest tree, ?_⟩
    exact (ValidateCommand.course_run environment rest tree).output_cases.imp_left
      (congrArg plainOutput)

/-- A tree with a program of an earlier run beside a project that does not name its
default target. -/
def staleTree : Tree where
  entries :=
    [(["project.yaml"], .file "targets: []".toUTF8),
      (["build.csx"], .file "Build();\n".toUTF8)]

/-- A project without a default target leaves the program of an earlier run alone. -/
theorem staleTree_keeps_program :
    readPreamble ["compile", "-o", "build.csx"] =
        .ok (.proceed 30 ["compile", "-o", "build.csx"]) ∧
      (answer (run [] ["compile", "-o", "build.csx"]) staleTree).conclusion.code? = some 1 ∧
      perform (run [] ["compile", "-o", "build.csx"]) staleTree =
        (answer (run [] ["compile", "-o", "build.csx"]) staleTree, staleTree) ∧
      (answer (run [] ["compile", "-o", "build.csx"]) staleTree).output = "" := by
  have called : readPreamble ["compile", "-o", "build.csx"] =
      .ok (.proceed 30 (CommandKind.compile.name :: ["-o", "build.csx"])) := by decide +kernel
  have code : (answer (run [] ["compile", "-o", "build.csx"]) staleTree).conclusion.code? =
      some 1 := by decide +kernel
  obtain ⟨nothing, same⟩ := (failed_commands_leave_no_trace [] called staleTree).1 rfl
  refine ⟨called, code, Prod.ext rfl (same.resolve_right ?_), nothing ?_⟩
  · rintro ⟨_, ends⟩
    -- No end of writing has this exit code.
    rw [answer_run called, Report.conclusion_spellOut, conclusion_report] at code
    split at code
    · obtain completed | onWriting | escaped := ends
      · rw [completed] at code
        cases code
      · rw [code?_of_isOnWriting onWriting] at code
        cases code
      · rw [escaped] at code
        cases code
    · cases code
  · intro completed
    rw [completed] at code
    cases code

end CommandLine

end RunOnce.Command
