import Mathlib.Data.List.TakeWhile
import RunOnce.Proofs.Command.Traces

/-!
# Where a program goes

A program that is written to a file is there as it is. On the output stream it loses
its terminal control sequences, so the two agree exactly if it has none. A program that
cannot be encoded goes to neither place.
-/

namespace RunOnce.Command

open RunOnce.Compile
open RunOnce.Files
open RunOnce.Journal
open RunOnce.Source

/-! ## Control sequences -/

/-- Whether characters make up a terminal control sequence: parameters, then signs,
then one character that ends it. -/
def IsSequence (cs : List Char) : Prop :=
  ∃ parameters signs last, cs = '\x1b' :: '[' :: (parameters ++ (signs ++ [last])) ∧
    (∀ c ∈ parameters, isBetween '0' '?' c = true) ∧ (∀ c ∈ signs, isBetween ' ' '/' c = true) ∧
      isBetween '@' '~' last = true

/-- Whether there is a control sequence somewhere. -/
def HasSequence (cs : List Char) : Prop :=
  ∃ sequence, IsSequence sequence ∧ sequence <:+: cs

theorem isBetween_iff {low high c : Char} :
    isBetween low high c = true ↔ low.toNat ≤ c.toNat ∧ c.toNat ≤ high.toNat := by
  simp only [isBetween, Bool.and_eq_true, decide_eq_true_eq]
  rfl

/-- A range of characters is passed at once where others follow. -/
theorem dropWhile_isBetween {low high c : Char} {inside rest : List Char}
    (within : ∀ c ∈ inside, isBetween low high c = true) (beyond : isBetween low high c = false) :
    (inside ++ c :: rest).dropWhile (isBetween low high) = c :: rest := by
  rw [List.dropWhile_append_of_pos within, List.dropWhile_cons_of_neg (by simp [beyond])]

theorem afterSequence?_eq_some_iff {cs after : List Char} :
    afterSequence? cs = some after ↔
      ∃ parameters signs last, cs = parameters ++ (signs ++ last :: after) ∧
        (∀ c ∈ parameters, isBetween '0' '?' c = true) ∧
        (∀ c ∈ signs, isBetween ' ' '/' c = true) ∧ isBetween '@' '~' last = true := by
  unfold afterSequence?
  constructor
  · intro found
    split at found
    · rename_i last others divided
      split at found
      · rename_i ends
        cases found
        refine ⟨cs.takeWhile (isBetween '0' '?'),
          (cs.dropWhile (isBetween '0' '?')).takeWhile (isBetween ' ' '/'), last, ?_,
          fun _ => List.mem_takeWhile_imp, fun _ => List.mem_takeWhile_imp, ends⟩
        rw [← divided, List.takeWhile_append_dropWhile, List.takeWhile_append_dropWhile]
      · cases found
    · cases found
  · rintro ⟨parameters, signs, last, rfl, inParameters, inSigns, ends⟩
    have final := isBetween_iff.mp ends
    -- Neither a sign nor the last character is a parameter.
    have parted : (parameters ++ (signs ++ last :: after)).dropWhile (isBetween '0' '?') =
        signs ++ last :: after := by
      cases signs with
      | nil =>
        refine dropWhile_isBetween inParameters (Bool.eq_false_iff.mpr ?_)
        intro parameter
        have := isBetween_iff.mp parameter
        simp only [Char.reduceToNat] at this final
        omega
      | cons sign signs =>
        refine dropWhile_isBetween inParameters (Bool.eq_false_iff.mpr ?_)
        intro parameter
        have := isBetween_iff.mp parameter
        have := isBetween_iff.mp (inSigns sign List.mem_cons_self)
        simp only [Char.reduceToNat] at *
        omega
    have signed : (signs ++ last :: after).dropWhile (isBetween ' ' '/') = last :: after := by
      refine dropWhile_isBetween inSigns (Bool.eq_false_iff.mpr ?_)
      intro sign
      have := isBetween_iff.mp sign
      simp only [Char.reduceToNat] at this final
      omega
    rw [parted, signed]
    exact if_pos ends

/-- A control sequence is in front where two characters open one that ends. -/
theorem exists_isSequence_prefix_iff {cs : List Char} :
    (∃ sequence, IsSequence sequence ∧ sequence <+: cs) ↔
      ∃ rest after, cs = '\x1b' :: '[' :: rest ∧ afterSequence? rest = some after := by
  constructor
  · rintro ⟨_, ⟨parameters, signs, last, rfl, conditions⟩, after, rfl⟩
    exact ⟨_, after, rfl, afterSequence?_eq_some_iff.mpr
      ⟨parameters, signs, last, by simp, conditions⟩⟩
  · rintro ⟨rest, after, rfl, found⟩
    obtain ⟨parameters, signs, last, rfl, conditions⟩ := afterSequence?_eq_some_iff.mp found
    exact ⟨_, ⟨parameters, signs, last, rfl, conditions⟩, after, by simp⟩

theorem not_hasSequence_nil : ¬HasSequence [] := by
  rintro ⟨_, ⟨_, _, _, rfl, _⟩, within⟩
  cases List.infix_nil.mp within

theorem hasSequence_cons_iff {c : Char} {cs : List Char} :
    HasSequence (c :: cs) ↔
      (∃ rest after, c :: cs = '\x1b' :: '[' :: rest ∧ afterSequence? rest = some after) ∨
        HasSequence cs := by
  rw [← exists_isSequence_prefix_iff]
  simp only [HasSequence, List.infix_cons_iff, and_or_left, exists_or]

theorem length_dropSequences_le (bound : Nat) (cs : List Char) :
    (dropSequences bound cs).length ≤ cs.length := by
  fun_induction dropSequences bound cs with
  | case1 | case2 => exact Nat.zero_le _
  | case3 bound rest after found ih =>
    obtain ⟨_, _, _, rfl, _⟩ := afterSequence?_eq_some_iff.mp found
    simp only [List.length_cons, List.length_append]
    omega
  | case4 | case5 => simp only [List.length_cons]; omega

/-- Characters stay as they are exactly if there is no control sequence among them. -/
theorem dropSequences_eq_self_iff {bound : Nat} {cs : List Char} (enough : cs.length ≤ bound) :
    dropSequences bound cs = cs ↔ ¬HasSequence cs := by
  fun_induction dropSequences bound cs with
  | case1 cs =>
    obtain rfl := List.eq_nil_of_length_eq_zero (Nat.le_zero.mp enough)
    simp [not_hasSequence_nil]
  | case2 => simp [not_hasSequence_nil]
  | case3 bound rest after found =>
    have sequence : HasSequence ('\x1b' :: '[' :: rest) :=
      hasSequence_cons_iff.mpr (.inl ⟨rest, after, rfl, found⟩)
    simp only [sequence, not_true_eq_false, iff_false]
    intro same
    -- What follows the sequence is too short to give the characters back.
    have short := length_dropSequences_le bound after
    rw [same] at short
    obtain ⟨_, _, _, rfl, _⟩ := afterSequence?_eq_some_iff.mp found
    simp only [List.length_cons, List.length_append] at short
    omega
  | case4 bound rest unended ih =>
    have inside : HasSequence ('\x1b' :: '[' :: rest) ↔ HasSequence rest := by
      simp [hasSequence_cons_iff, unended]
    rw [inside, ← ih (by simp only [List.length_cons] at enough; omega)]
    simp
  | case5 bound c rest other ih =>
    have inside : HasSequence (c :: rest) ↔ HasSequence rest := by
      rw [hasSequence_cons_iff, or_iff_right]
      rintro ⟨others, _, opens, _⟩
      obtain ⟨rfl, rfl⟩ := List.cons.inj opens
      exact other _ rfl rfl
    rw [inside, ← ih (by simp only [List.length_cons] at enough; omega)]
    simp

theorem plainOutput_eq_self_iff {text : String} :
    plainOutput text = text ↔ ¬HasSequence text.toList := by
  rw [← dropSequences_eq_self_iff le_rfl, plainOutput]
  constructor
  · intro same
    exact String.ofList_injective (same.trans String.ofList_toList.symm)
  · intro same
    rw [same, String.ofList_toList]

/-! ## Two places for a program -/

/-- A report that reaches an end reaches that of its command. -/
theorem ending_of_conclusion_report {threshold : Nat} {transcript : Transcript} {ending : Ending}
    (reached : (transcript.report threshold).conclusion = .reached ending) :
    transcript.ending = ending := by
  rw [conclusion_report] at reached
  split at reached <;> cases reached
  rfl

namespace CompileCommand

variable {environment : List (String × String)} {words : List String} {tree : Tree}
  {request : Request} {given : List Given} {shown : String}

theorem opening_eq_asked_iff :
    opening words tree = .asked request ↔
      ∃ read, readWords options true words = .ok read ∧ read.others = [] ∧
        .help ∉ read.given ∧ requestOf read.given = request ∧
        ∀ given ∈ read.given, problem? read.given
          (answer (outputIsDirectory read.given) tree) given.choice = none := by
  unfold opening
  cases readWords options true words with
  | error error => simp
  | ok read =>
    simp only [Except.ok.injEq, exists_eq_left']
    by_cases help : .help ∈ read.given
    · simp [help]
    · simp only [List.contains_iff_mem, help, if_false, not_false_eq_true, true_and,
        answer_readRequest, requestOrEnding, Words.onlyOptions, List.isEmpty_iff]
      have sound : firstProblem? read.given (answer (outputIsDirectory read.given) tree) = none ↔
          ∀ given ∈ read.given, problem? read.given
            (answer (outputIsDirectory read.given) tree) given.choice = none := by
        simp [firstProblem?, List.findSome?_eq_none_iff]
      rw [← sound]
      cases firstProblem? read.given (answer (outputIsDirectory read.given) tree) with
      | some ending => simp
      | none => by_cases others : read.others = [] <;> simp [others]

/-- A file for the program that stands before all other options is one more option. -/
theorem readWords_output_cons (shown : String) (words : List String) :
    readWords options true ("-o" :: shown :: words) =
      (readWords options true words).map fun read =>
        { read with given := .output shown :: read.given } := by
  have opens : readHyphenated options "-o".toList = .ok ⟨[], some ("-o", .output)⟩ := rfl
  conv_lhs => unfold readWords
  rw [if_neg (by decide), if_pos (by decide), opens]
  dsimp only [bind, Except.bind]
  cases readWords options true words <;> rfl

theorem outputOf_cons_output (toStream : outputOf given = none) :
    outputOf (.output shown :: given) = some shown := by
  have unnamed := List.getLast?_eq_none_iff.mp toStream
  simp only [outputOf, last?, List.filterMap_cons, unnamed, List.getLast?_singleton]

/-- Where the program goes has no part in what is wrong with other options. -/
theorem problem?_cons_output {choice : Choice} (other : choice ≠ .output)
    (isDirectory wasDirectory : Bool) :
    problem? (.output shown :: given) isDirectory choice = problem? given wasDirectory choice := by
  cases choice with
  | output => exact absurd rfl other
  | file | property | parameterOrder | itemSchemas | detectCycles | workers | help => rfl

/-- A file for the program changes nothing else in what is asked for. -/
theorem opening_output_cons (opens : opening words tree = .asked request)
    (toStream : request.output = none) (isPath : Path.hasNul shown = false)
    (noDirectory : answer (Store.namesDirectory shown) tree = false) :
    opening ("-o" :: shown :: words) tree = .asked { request with output := some shown } := by
  obtain ⟨read, reads, only, noHelp, rfl, sound⟩ := opening_eq_asked_iff.mp opens
  have filed : outputOf (.output shown :: read.given) = some shown := outputOf_cons_output toStream
  refine opening_eq_asked_iff.mpr ⟨{ read with given := .output shown :: read.given }, ?_, only,
    by simpa using noHelp, ?_, ?_⟩
  · rw [readWords_output_cons, reads]
    rfl
  · rw [← filed]
    rfl
  · intro given listed
    by_cases output : given.choice = .output
    · simp [output, problem?, filed, outputIsDirectory, noDirectory, Ending.ofPathText?, isPath]
    · obtain rfl | listed := List.mem_cons.mp listed
      · exact absurd rfl output
      · rw [problem?_cons_output output, sound given listed]

/-- Where the program goes has no part in compiling it. -/
theorem Compiles.redirect {events : List Event} {outcome : Except CompileError Compiled}
    (compiles : Compiles environment request tree events outcome) (output : Option String) :
    Compiles environment { request with output := output } tree events outcome :=
  let ⟨settled, compiled⟩ := compiles
  ⟨settled, compiled⟩

/-- Once a program is there, the command does nothing but hand it over. -/
theorem perform_run_of_compiles {events : List Event} {program : Compiled}
    (opens : opening words tree = .asked request)
    (compiles : Compiles environment request tree events (.ok program)) :
    perform (run environment words) tree =
      perform (deliver request.output events program) tree := by
  obtain ⟨settled, compiled⟩ := compiles
  rw [perform_run, opens]
  dsimp only
  unfold execute
  rw [perform_bind_of_keeps (keeps_findSettings _ _), settled]
  dsimp only
  unfold compileUnder
  rw [perform_bind_of_keeps (keeps_compileFile _ _ _ _), compiled]

/-- Compiling that is asked for ends well only with a program that can be encoded. -/
theorem Course.exists_program {transcript : Transcript} {after : Tree}
    (course : Course environment words tree transcript after)
    (opens : opening words tree = .asked request) (completed : transcript.ending = .completed) :
    ∃ events program, Compiles environment request tree events (.ok program) ∧
      program.isEncodable = true := by
  cases course with
  | helped other | refused other => cases opens.symm.trans other
  | @unsettled _ error =>
    cases error <;> cases completed
  | @unloaded request _ error =>
    obtain ⟨_, _, ends⟩ | ⟨_, _, ends, _⟩ := loadEnding_cases request.file error <;>
      cases ends.symm.trans completed
  | failed | misnamed | unprinted | emptied | unwritten => cases completed
  | printed same compiles _ encodable | written same compiles _ encodable =>
    cases opens.symm.trans same
    exact ⟨_, _, compiles, encodable⟩

theorem perform_deliver_stream {events : List Event} {program : Compiled}
    (encodable : program.isEncodable = true) (tree : Tree) :
    perform (deliver none events program) tree =
      ({ notices := events.map .event, output := program.text, standIns := program.standIns },
        tree) := by
  simp only [deliver, encodable, if_true]
  rfl

/-- A file gets the whole program, or it cannot be written. -/
theorem perform_deliver_file (shown : String) (events : List Event) {program : Compiled}
    (encodable : program.isEncodable = true) (tree : Tree) :
    ∃ transcript after, perform (deliver (some shown) events program) tree = (transcript, after) ∧
      transcript.output = "" ∧
      (after.read (Path.ofText shown) = .ok program.text.toUTF8 ∨
        transcript.ending.isOnWriting) := by
  simp only [deliver, fileContent, encodable, if_true]
  rw [perform_bind]
  cases writes : perform (Store.writeDeep (Path.ofText shown) program.text.toUTF8) tree with
  | mk outcome after =>
    cases outcome with
    | ok done => exact ⟨_, _, rfl, rfl, .inl (read_of_writeDeep writes)⟩
    | error fault => exact ⟨_, _, rfl, rfl, .inr (isOnWriting_writeTrouble shown fault)⟩

/-- A program that cannot be encoded is not written to the output stream. A file is
emptied for it, unless that cannot be written. -/
theorem perform_deliver_damaged (output : Option String) (events : List Event)
    {program : Compiled} (damaged : program.isEncodable = false) (tree : Tree) :
    ∃ transcript after, perform (deliver output events program) tree = (transcript, after) ∧
      transcript.output = "" ∧
      (transcript.ending = .escaped .encoding ∧
          (∀ shown, output = some shown → after.read (Path.ofText shown) = .ok .empty) ∨
        transcript.ending.isOnWriting) := by
  simp only [deliver, fileContent, damaged, Bool.false_eq_true, if_false]
  cases output with
  | none => exact ⟨_, _, rfl, rfl, .inl ⟨rfl, by simp⟩⟩
  | some shown =>
    dsimp only
    rw [perform_bind]
    cases writes : perform (Store.writeDeep (Path.ofText shown) .empty) tree with
    | mk outcome after =>
      cases outcome with
      | ok done =>
        refine ⟨_, _, rfl, rfl, .inl ⟨rfl, ?_⟩⟩
        rintro _ ⟨⟩
        exact read_of_writeDeep writes
      | error fault => exact ⟨_, _, rfl, rfl, .inr (isOnWriting_writeTrouble shown fault)⟩

end CompileCommand

namespace CommandLine

variable {environment : List (String × String)} {words rest filedWords filedRest : List String}
  {threshold filedThreshold : Nat} {tree : Tree} {request : CompileCommand.Request}
  {shown : String}

/-- Compiling to the output stream writes the program less its control sequences, so
exactly if there are none does it write the program itself. The same request with a file
writes nothing to the output stream, and the file has the program itself unless it
cannot be written. -/
theorem output_is_program_unless_sequences
    (called : readPreamble words = .ok (.proceed threshold (CommandKind.compile.name :: rest)))
    (opens : CompileCommand.opening rest tree = .asked request) (toStream : request.output = none)
    (filed : readPreamble filedWords =
      .ok (.proceed filedThreshold (CommandKind.compile.name :: filedRest)))
    (filedOpens : CompileCommand.opening filedRest tree =
      .asked { request with output := some shown })
    (completed : (answer (run environment words) tree).conclusion = .reached .completed) :
    ∃ events program, CompileCommand.Compiles environment request tree events (.ok program) ∧
      (answer (run environment words) tree).output = plainOutput program.text ∧
      ((answer (run environment words) tree).output = program.text ↔
        ¬HasSequence program.text.toList) ∧
      (answer (run environment filedWords) tree).output = "" ∧
      ((perform (run environment filedWords) tree).2.read (Path.ofText shown) =
          .ok program.text.toUTF8 ∨
        (answer (runCommand environment .compile filedRest) tree).ending.isOnWriting) := by
  rw [answer_run called, Report.conclusion_spellOut] at completed
  obtain ⟨events, program, compiles, encodable⟩ :=
    (CompileCommand.course_run environment rest tree).exists_program opens
      (ending_of_conclusion_report completed)
  have printed : (answer (run environment words) tree).output = plainOutput program.text := by
    have handedOver : perform (runCommand environment .compile rest) tree =
        perform (CompileCommand.deliver request.output events program) tree :=
      CompileCommand.perform_run_of_compiles opens compiles
    rw [toStream, CompileCommand.perform_deliver_stream encodable] at handedOver
    rw [answer_run called, Report.output_spellOut, output_report, answer, handedOver]
  obtain ⟨filedTranscript, filedAfter, delivered, silent, written⟩ :=
    CompileCommand.perform_deliver_file shown events encodable tree
  have filedPerformed : perform (runCommand environment .compile filedRest) tree =
      (filedTranscript, filedAfter) :=
    (CompileCommand.perform_run_of_compiles filedOpens (compiles.redirect (some shown))).trans
      delivered
  have filedRun := perform_run filed environment tree
  rw [answer, filedPerformed] at filedRun
  refine ⟨events, program, compiles, printed, ?_, ?_, ?_⟩
  · rw [printed, plainOutput_eq_self_iff]
  · rw [answer, filedRun, Report.output_spellOut, output_report, silent]
    rfl
  · rw [filedRun, answer, filedPerformed]
    exact written

/-- A tree with a project that has nothing but a default target. -/
def sparseTree : Tree where
  entries := [(["project.yaml"], .file "default_targets: All".toUTF8)]

/-- The file gets the program that the output stream shows. -/
theorem sparseTree_program :
    readPreamble ["compile"] = .ok (.proceed 30 ["compile"]) ∧
      readPreamble ["compile", "-o", "build.csx"] =
        .ok (.proceed 30 ["compile", "-o", "build.csx"]) ∧
      ∃ events program, CompileCommand.Compiles [] {} sparseTree events (.ok program) ∧
        (answer (run [] ["compile"]) sparseTree).output = plainOutput program.text ∧
        (perform (run [] ["compile", "-o", "build.csx"]) sparseTree).2.read
          (Path.ofText "build.csx") = .ok program.text.toUTF8 := by
  have called : readPreamble ["compile"] =
      .ok (.proceed 30 (CommandKind.compile.name :: [])) := by decide +kernel
  have filed : readPreamble ["compile", "-o", "build.csx"] =
      .ok (.proceed 30 (CommandKind.compile.name :: ["-o", "build.csx"])) := by decide +kernel
  have opens : CompileCommand.opening [] sparseTree = .asked {} :=
    CompileCommand.opening_eq_asked_iff.mpr ⟨{}, rfl, rfl, by simp, rfl, by simp⟩
  have filedOpens : CompileCommand.opening ["-o", "build.csx"] sparseTree =
      .asked { output := some "build.csx" } :=
    CompileCommand.opening_output_cons opens rfl (by decide) (by decide +kernel)
  have completed : (answer (run [] ["compile"]) sparseTree).conclusion = .reached .completed := by
    have ends : (answer (run [] ["compile"]) sparseTree).conclusion matches
        .reached .completed := by decide +kernel
    split at ends
    · assumption
    · cases ends
  have writable : (answer (runCommand [] .compile ["-o", "build.csx"])
      sparseTree).ending.isOnWriting = false := by decide +kernel
  obtain ⟨events, program, compiles, printed, _, _, written⟩ :=
    output_is_program_unless_sequences called opens rfl filed filedOpens completed
  exact ⟨called, filed, events, program, compiles, printed,
    written.resolve_right (by simp [writable])⟩

/-- A tree with a project whose only property asks for a colour. -/
def colouredTree : Tree where
  entries :=
    [(["project.yaml"], .file
      "properties:\n- name: Red\n  expanded_value: \"\\e[31m\"\ndefault_targets: All".toUTF8)]

/-- The output stream loses what the file has. -/
theorem colouredTree_loses_sequence :
    (answer (run [] ["compile"]) colouredTree).output = "var Red = \"\";\n\nAll();\n" ∧
      (perform (run [] ["compile", "-o", "build.csx"]) colouredTree).2.read
        (Path.ofText "build.csx") = .ok "var Red = \"\x1b[31m\";\n\nAll();\n".toUTF8 := by
  decide +kernel

/-- A program that cannot be encoded goes neither to the output stream nor to a file: the
file is emptied before that shows, unless it cannot be written at all. -/
theorem damaged_program_goes_nowhere
    (called : readPreamble words = .ok (.proceed threshold (CommandKind.compile.name :: rest)))
    (opens : CompileCommand.opening rest tree = .asked request) {events : List Event}
    {program : Compiled}
    (compiles : CompileCommand.Compiles environment request tree events (.ok program))
    (damaged : program.isEncodable = false) :
    (answer (run environment words) tree).output = "" ∧
      ((answer (runCommand environment .compile rest) tree).ending = .escaped .encoding ∧
          (∀ shown, request.output = some shown →
            (perform (run environment words) tree).2.read (Path.ofText shown) = .ok .empty) ∨
        (answer (runCommand environment .compile rest) tree).ending.isOnWriting) := by
  obtain ⟨transcript, after, delivered, silent, ends⟩ :=
    CompileCommand.perform_deliver_damaged request.output events damaged tree
  have performed : perform (runCommand environment .compile rest) tree = (transcript, after) :=
    (CompileCommand.perform_run_of_compiles opens compiles).trans delivered
  have whole := perform_run called environment tree
  rw [answer, performed] at whole
  constructor
  · rw [answer, whole, Report.output_spellOut, output_report, silent]
    rfl
  · rw [whole, answer, performed]
    exact ends

/-- A tree with a project whose only property is half of a character. -/
def halvedTree : Tree where
  entries :=
    [(["project.yaml"], .file
      "properties:\n- name: Half\n  expanded_value: \"\\ud800\"\ndefault_targets: All".toUTF8)]

example :
    (answer (run [] ["compile"]) halvedTree).conclusion.code? = none ∧
      (answer (run [] ["compile"]) halvedTree).output = "" ∧
      (perform (run [] ["compile", "-o", "build.csx"]) halvedTree).2.read
        (Path.ofText "build.csx") = .ok .empty := by
  decide +kernel

end CommandLine

end RunOnce.Command
