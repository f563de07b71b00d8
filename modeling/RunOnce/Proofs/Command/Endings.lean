import RunOnce.Proofs.Command.Courses

/-!
# Exit codes of commands

Compiling and validating end with an exit code, except for what nobody foresees: a
path that cannot be one, settings that cannot be read, a project whose bytes or
scalars cannot be read or whose nodes are too many within one another, a program that
cannot be encoded, and a message that cannot be shown. Of the settings, compiling
foresees that they are invalid, and validating does not. The exit code is two over
misuse, over a project that is missing or that nobody may read, and over a program
whose file cannot be written; any other reason to give up ends with one.
-/

namespace RunOnce.Source

/-- Whether a project cannot be loaded for a reason that no command foresees: its
bytes write no text, a scalar writes no value of its type, or more nodes are within one
another than the runtime can go into. -/
def LoadError.IsUnforeseen : LoadError → Prop
  | .notText | .malformed .notText | .malformed (.unreadable _) | .malformed .tooDeep => True
  | _ => False

/-- Whether a project is missing, or nobody may read it. -/
def LoadError.IsOutOfReach : LoadError → Prop
  | .missing _ => True
  | .unavailable fault => fault.cause = .denied
  | _ => False

end RunOnce.Source

namespace RunOnce.Command

open RunOnce.Compile
open RunOnce.Document
open RunOnce.Files
open RunOnce.Journal
open RunOnce.Model
open RunOnce.Source

/-! ## Endings by their reasons -/

/-- Whether a command ends over its words. -/
def Ending.IsOnWords : Ending → Prop
  | .misused _ | .escaped (.path _) => True
  | _ => False

theorem isOnWords_of_ofPathText? {text : String} {ending : Ending}
    (found : Ending.ofPathText? text = some ending) : ending.IsOnWords := by
  unfold Ending.ofPathText? at found
  split at found <;> cases found
  trivial

/-- How a command ends whose project cannot be loaded. -/
theorem loadEnding_cases (shown : String) (error : LoadError) :
    (error.IsUnforeseen ∧ ∃ cause, loadEnding shown error = .escaped (.load cause)) ∨
      ¬error.IsUnforeseen ∧ ∃ trouble, loadEnding shown error = .gaveUp (.load shown trouble) ∧
        ((Trouble.load shown trouble).exitCode = systemTrouble ∧ error.IsOutOfReach ∨
          (Trouble.load shown trouble).exitCode = userMistake ∧ ¬error.IsOutOfReach) := by
  match error with
  | .missing path => exact .inr ⟨id, _, rfl, .inl ⟨rfl, trivial⟩⟩
  | .unavailable fault =>
    by_cases denied : fault.cause = .denied
    · exact .inr ⟨id, .denied, by simp [loadEnding, Trouble.ofLoadError, denied],
        .inl ⟨rfl, denied⟩⟩
    · exact .inr ⟨id, .other fault.message, by simp [loadEnding, Trouble.ofLoadError, denied],
        .inr ⟨rfl, denied⟩⟩
  | .notText => exact .inl ⟨trivial, _, rfl⟩
  | .malformed (.at problem mark) => exact .inr ⟨id, _, rfl, .inr ⟨rfl, id⟩⟩
  | .malformed (.unacceptable code position) => exact .inr ⟨id, _, rfl, .inr ⟨rfl, id⟩⟩
  | .malformed .notText => exact .inl ⟨trivial, _, rfl⟩
  | .malformed (.unreadable cause) => exact .inl ⟨trivial, _, rfl⟩
  | .malformed .tooDeep => exact .inl ⟨trivial, _, rfl⟩
  | .invalid issues => exact .inr ⟨id, _, rfl, .inr ⟨rfl, id⟩⟩

namespace CompileCommand

variable {environment : List (String × String)} {words : List String} {tree : Tree}
  {given : List Given} {ending : Ending}

theorem isOnWords_of_problem? {outputIsDirectory : Bool} {choice : Choice}
    (found : problem? given outputIsDirectory choice = some ending) : ending.IsOnWords := by
  cases choice with
  | file => exact isOnWords_of_ofPathText? found
  | output =>
    obtain ⟨path, _, found⟩ := Option.bind_eq_some_iff.mp found
    split at found
    · cases found
      trivial
    · exact isOnWords_of_ofPathText? found
  | property | parameterOrder | workers =>
    dsimp only [problem?] at found
    split at found <;> cases found
    trivial
  | itemSchemas | detectCycles | help => cases found

/-- Words that are refused are the reason for it. -/
theorem isOnWords_of_refused (opens : opening words tree = .refused ending) :
    ending.IsOnWords := by
  unfold opening at opens
  split at opens
  · cases opens
    trivial
  · rename_i read _
    split at opens
    · cases opens
    · rw [answer_readRequest, requestOrEnding] at opens
      cases found : firstProblem? read.given (answer (outputIsDirectory read.given) tree) with
      | some problem =>
        rw [found] at opens
        cases opens
        obtain ⟨choice, _, found⟩ := List.exists_of_findSome?_eq_some found
        exact isOnWords_of_problem? found
      | none =>
        rw [found] at opens
        cases extra : read.onlyOptions with
        | error error =>
          rw [extra] at opens
          cases opens
          trivial
        | ok options =>
          rw [extra] at opens
          cases opens

/-- Whether a file for the program is asked for that cannot be written. -/
def CannotWrite (request : Request) (program : Compiled) (tree : Tree) : Prop :=
  ∃ shown fault after, request.output = some shown ∧
    perform (Store.writeDeep (Path.ofText shown) (fileContent program)) tree = (.error fault, after)

/-- What a request to compile can meet that is not foreseen. -/
inductive Unforeseen (environment : List (String × String)) (request : Request)
    (tree : Tree) : Prop
  | settings {error : SettingsError}
      (unsettled : answer (findSettings request.arguments environment) tree = .error error)
      (notInvalid : ∀ issues, error ≠ .invalid issues)
  | project {settings : Settings} {error : LoadError}
      (settled : answer (findSettings request.arguments environment) tree = .ok settings)
      (unloaded : answer (load request.globals (Path.ofText request.file)) tree = .error error)
      (unforeseen : error.IsUnforeseen)
  | program {events : List Event} {program : Compiled}
      (compiles : Compiles environment request tree events (.ok program))
      (damaged : program.isEncodable = false) (writable : ¬CannotWrite request program tree)

/-- What files can keep a request to compile from. -/
inductive OutOfReach (environment : List (String × String)) (request : Request)
    (tree : Tree) : Prop
  | project {settings : Settings} {error : LoadError}
      (settled : answer (findSettings request.arguments environment) tree = .ok settings)
      (unloaded : answer (load request.globals (Path.ofText request.file)) tree = .error error)
      (outOfReach : error.IsOutOfReach)
  | program {events : List Event} {program : Compiled}
      (compiles : Compiles environment request tree events (.ok program))
      (unwritable : CannotWrite request program tree)

variable {request : Request} {events : List Event} {outcome : Except CompileError Compiled}

/-- Without settings, compiling ends over what it does not foresee unless they are
invalid. -/
theorem escaped_settingsEnding_iff {error : SettingsError}
    (unsettled : answer (findSettings request.arguments environment) tree = .error error) :
    (∃ cause, settingsEnding error = .escaped cause) ↔ Unforeseen environment request tree := by
  constructor
  · rintro ⟨cause, escaped⟩
    refine .settings unsettled ?_
    rintro issues rfl
    cases escaped
  · rintro (⟨again, notInvalid⟩ | ⟨settled, _, _⟩ | ⟨⟨settled, _⟩, _, _⟩)
    · cases unsettled.symm.trans again
      cases error with
      | invalid issues => exact absurd rfl (notInvalid issues)
      | _ => exact ⟨_, rfl⟩
    · cases unsettled.symm.trans settled
    · cases unsettled.symm.trans settled

theorem Compiles.load_iff (compiles : Compiles environment request tree events outcome)
    {error : LoadError} :
    answer (load request.globals (Path.ofText request.file)) tree = .error error ↔
      outcome = .error (.load error) := by
  obtain ⟨_, compiled⟩ := compiles
  rw [← outcome_compileFile_eq_load_iff, compiled]

/-- Compiling comes to one outcome. -/
theorem Compiles.outcome_eq {otherEvents : List Event} {other : Except CompileError Compiled}
    (compiles : Compiles environment request tree events outcome)
    (again : Compiles environment request tree otherEvents other) : other = outcome := by
  obtain ⟨settled, compiled⟩ := compiles
  obtain ⟨resettled, recompiled⟩ := again
  cases settled.symm.trans resettled
  cases compiled.symm.trans recompiled
  rfl

/-- Once there are settings, only the project can hold what is not foreseen, or the
program. -/
theorem Compiles.unforeseen_iff (compiles : Compiles environment request tree events outcome) :
    Unforeseen environment request tree ↔
      (∃ error, outcome = .error (.load error) ∧ error.IsUnforeseen) ∨
      ∃ program, outcome = .ok program ∧ program.isEncodable = false ∧
        ¬CannotWrite request program tree := by
  obtain ⟨settled, _⟩ := id compiles
  constructor
  · rintro (⟨unsettled, _⟩ | ⟨_, unloaded, unforeseen⟩ | ⟨again, damaged, writable⟩)
    · cases settled.symm.trans unsettled
    · exact .inl ⟨_, compiles.load_iff.mp unloaded, unforeseen⟩
    · exact .inr ⟨_, (compiles.outcome_eq again).symm, damaged, writable⟩
  · rintro (⟨error, failed, unforeseen⟩ | ⟨program, rfl, damaged, writable⟩)
    · exact .project settled (compiles.load_iff.mpr failed) unforeseen
    · exact .program compiles damaged writable

/-- Once there are settings, the project can be out of reach, or the place of the
program. -/
theorem Compiles.outOfReach_iff (compiles : Compiles environment request tree events outcome) :
    OutOfReach environment request tree ↔
      (∃ error, outcome = .error (.load error) ∧ error.IsOutOfReach) ∨
      ∃ program, outcome = .ok program ∧ CannotWrite request program tree := by
  obtain ⟨settled, _⟩ := id compiles
  constructor
  · rintro (⟨_, unloaded, outOfReach⟩ | ⟨again, unwritable⟩)
    · exact .inl ⟨_, compiles.load_iff.mp unloaded, outOfReach⟩
    · exact .inr ⟨_, (compiles.outcome_eq again).symm, unwritable⟩
  · rintro (⟨error, failed, outOfReach⟩ | ⟨program, rfl, unwritable⟩)
    · exact .project settled (compiles.load_iff.mpr failed) outOfReach
    · exact .program compiles unwritable

theorem not_cannotWrite_of_toStream {program : Compiled} (toStream : request.output = none) :
    ¬CannotWrite request program tree := by
  rintro ⟨shown, _, _, toFile, _⟩
  cases toStream.symm.trans toFile

theorem not_cannotWrite_of_writes {program : Compiled} {shown : String} {after : Tree}
    (toFile : request.output = some shown)
    (writes : perform (Store.writeDeep (Path.ofText shown) (fileContent program)) tree =
      (.ok (), after)) : ¬CannotWrite request program tree := by
  rintro ⟨other, fault, _, again, fails⟩
  cases toFile.symm.trans again
  cases writes.symm.trans fails

theorem exitCode_writeTrouble (shown : String) (fault : Fault) :
    (writeTrouble shown fault).exitCode = systemTrouble := by
  unfold writeTrouble
  split <;> rfl

/-- Compiling ends over what it does not foresee exactly if it meets something of the
kind. -/
theorem Course.escaped_iff {transcript : Transcript} {after : Tree}
    (course : Course environment words tree transcript after) :
    (∃ cause, transcript.ending = .escaped cause) ↔
      (∃ fault, opening words tree = .refused (.escaped (.path fault))) ∨
        ∃ request, opening words tree = .asked request ∧ Unforeseen environment request tree := by
  cases course with
  | helped opens => simp [opens]
  | @refused ending opens =>
    have onWords := isOnWords_of_refused opens
    rw [opens]
    constructor
    · rintro ⟨cause, rfl⟩
      cases cause with
      | path fault => exact .inl ⟨fault, rfl⟩
      | settings | load | encoding => cases onWords
    · rintro (⟨fault, ⟨⟩⟩ | ⟨_, ⟨⟩, _⟩)
      exact ⟨_, rfl⟩
  | unsettled opens unsettled =>
    simpa [opens] using escaped_settingsEnding_iff unsettled
  | @unloaded request events error opens fails =>
    simp only [opens, reduceCtorEq, exists_false, false_or, Opening.asked.injEq, exists_eq_left',
      fails.unforeseen_iff, Except.error.injEq, CompileError.load.injEq]
    obtain ⟨unforeseen, cause, escaped⟩ | ⟨foreseen, trouble, gaveUp, _⟩ :=
      loadEnding_cases request.file error
    · simp [unforeseen, escaped]
    · simp [foreseen, gaveUp]
  | failed opens fails | misnamed opens fails =>
    simp [opens, fails.unforeseen_iff, Transcript.ofTrouble]
  | printed opens compiles _ encodable | written opens compiles _ encodable _ =>
    simp [opens, compiles.unforeseen_iff, encodable]
  | unprinted opens compiles toStream damaged =>
    simp [opens, compiles.unforeseen_iff, damaged, not_cannotWrite_of_toStream toStream]
  | emptied opens compiles toFile damaged writes =>
    simp [opens, compiles.unforeseen_iff, damaged, not_cannotWrite_of_writes toFile writes]
  | @unwritten request events program shown fault after opens compiles toFile fails =>
    have unwritable : CannotWrite request program tree := ⟨shown, fault, after, toFile, fails⟩
    simp [opens, compiles.unforeseen_iff, Transcript.ofTrouble, unwritable]

/-- Compiling gives up with the exit code that tells whether files were out of reach. -/
theorem Course.exitCode_cases {transcript : Transcript} {after : Tree} {trouble : Trouble}
    (course : Course environment words tree transcript after)
    (gaveUp : transcript.ending = .gaveUp trouble) :
    ∃ request, opening words tree = .asked request ∧
      (trouble.exitCode = systemTrouble ∧ OutOfReach environment request tree ∨
        trouble.exitCode = userMistake ∧ ¬OutOfReach environment request tree) := by
  cases course with
  | helped opens => cases gaveUp
  | @refused ending opens =>
    have onWords := isOnWords_of_refused opens
    obtain rfl : ending = .gaveUp trouble := gaveUp
    cases onWords
  | @unsettled request error opens unsettled =>
    refine ⟨request, opens, ?_⟩
    cases error <;> cases gaveUp
    refine .inr ⟨rfl, ?_⟩
    rintro (⟨settled, _, _⟩ | ⟨⟨settled, _⟩, _, _⟩) <;> cases unsettled.symm.trans settled
  | @unloaded request events error opens fails =>
    refine ⟨request, opens, ?_⟩
    obtain ⟨_, cause, escaped⟩ | ⟨_, told, ends, codes⟩ := loadEnding_cases request.file error
    · cases escaped.symm.trans gaveUp
    · cases ends.symm.trans gaveUp
      simpa [fails.outOfReach_iff] using codes
  | failed opens fails | misnamed opens fails =>
    cases gaveUp
    exact ⟨_, opens, .inr ⟨rfl, by simp [fails.outOfReach_iff]⟩⟩
  | printed | unprinted | written | emptied => cases gaveUp
  | @unwritten request events program shown fault after opens compiles toFile fails =>
    cases gaveUp
    exact ⟨request, opens, .inl ⟨exitCode_writeTrouble shown fault,
      .program compiles ⟨shown, fault, after, toFile, fails⟩⟩⟩

end CompileCommand

namespace ValidateCommand

variable {environment : List (String × String)} {words : List String} {tree : Tree}
  {given : List Given} {ending : Ending}

theorem isOnWords_of_problem? {choice : Choice}
    (found : problem? given choice = some ending) : ending.IsOnWords := by
  cases choice with
  | file => exact isOnWords_of_ofPathText? found
  | property =>
    dsimp only [problem?] at found
    split at found <;> cases found
    trivial
  | strict | help => cases found

/-- Words that are refused are the reason for it. -/
theorem isOnWords_of_refused (opens : opening words = .refused ending) :
    ending.IsOnWords := by
  unfold opening at opens
  split at opens
  · cases opens
    trivial
  · rename_i read _
    split at opens
    · cases opens
    · unfold readRequest at opens
      cases found : (read.given.map Given.choice).eraseDups.findSome? (problem? read.given) with
      | some problem =>
        rw [found] at opens
        cases opens
        obtain ⟨choice, _, found⟩ := List.exists_of_findSome?_eq_some found
        exact isOnWords_of_problem? found
      | none =>
        rw [found] at opens
        cases extra : read.onlyOptions with
        | error error =>
          rw [extra] at opens
          cases opens
          trivial
        | ok options =>
          rw [extra] at opens
          cases opens

/-- What a request to validate can meet that is not foreseen. -/
inductive Unforeseen (environment : List (String × String)) (request : Request)
    (tree : Tree) : Prop
  | project {error : LoadError}
      (unloaded : answer (load request.globals (Path.ofText request.file)) tree = .error error)
      (unforeseen : error.IsUnforeseen)
  | settings {project : Loaded} {error : SettingsError}
      (loaded : answer (load request.globals (Path.ofText request.file)) tree = .ok project)
      (unsettled : answer (findSettings [] environment) tree = .error error)

/-- What files can keep a request to validate from. -/
inductive OutOfReach (request : Request) (tree : Tree) : Prop
  | project {error : LoadError}
      (unloaded : answer (load request.globals (Path.ofText request.file)) tree = .error error)
      (outOfReach : error.IsOutOfReach)

/-- Validating ends over what it does not foresee exactly if it meets something of the
kind. -/
theorem Course.escaped_iff {transcript : Transcript}
    (course : Course environment words tree transcript) :
    (∃ cause, transcript.ending = .escaped cause) ↔
      (∃ fault, opening words = .refused (.escaped (.path fault))) ∨
        ∃ request, opening words = .asked request ∧ Unforeseen environment request tree := by
  cases course with
  | helped opens => simp [opens]
  | @refused ending opens =>
    have onWords := isOnWords_of_refused opens
    rw [opens]
    constructor
    · rintro ⟨cause, rfl⟩
      cases cause with
      | path fault => exact .inl ⟨fault, rfl⟩
      | settings | load | encoding => cases onWords
    · rintro (⟨fault, ⟨⟩⟩ | ⟨_, ⟨⟩, _⟩)
      exact ⟨_, rfl⟩
  | @unloaded request error opens unloaded =>
    simp only [opens, reduceCtorEq, exists_false, false_or, Opening.asked.injEq, exists_eq_left']
    obtain ⟨unforeseen, cause, escaped⟩ | ⟨foreseen, trouble, gaveUp, _⟩ :=
      loadEnding_cases request.file error
    · exact ⟨fun _ => .project unloaded unforeseen, fun _ => ⟨_, escaped⟩⟩
    · constructor
      · rintro ⟨cause, escaped⟩
        cases gaveUp.symm.trans escaped
      · rintro (⟨again, unforeseen⟩ | ⟨loaded, _⟩)
        · cases unloaded.symm.trans again
          exact absurd unforeseen foreseen
        · cases unloaded.symm.trans loaded
  | @unsettled request project error opens loaded unsettled =>
    simp only [opens, reduceCtorEq, exists_false, false_or, Opening.asked.injEq, exists_eq_left']
    exact ⟨fun _ => .settings loaded unsettled, fun _ => ⟨_, rfl⟩⟩
  | @checked request project settings opens loaded settled =>
    simp only [opens, reduceCtorEq, exists_false, false_or, Opening.asked.injEq, exists_eq_left']
    constructor
    · rintro ⟨cause, escaped⟩
      obtain ⟨_, ends | ⟨trouble, ends, _⟩⟩ :=
        validateUnder_cases settings request project.project <;>
          cases ends.symm.trans escaped
    · rintro (⟨unloaded, _⟩ | ⟨_, unsettled⟩)
      · cases loaded.symm.trans unloaded
      · cases settled.symm.trans unsettled

/-- Validating gives up with the exit code that tells whether the project was out of
reach. -/
theorem Course.exitCode_cases {transcript : Transcript} {trouble : Trouble}
    (course : Course environment words tree transcript)
    (gaveUp : transcript.ending = .gaveUp trouble) :
    ∃ request, opening words = .asked request ∧
      (trouble.exitCode = systemTrouble ∧ OutOfReach request tree ∨
        trouble.exitCode = userMistake ∧ ¬OutOfReach request tree) := by
  cases course with
  | helped opens => cases gaveUp
  | @refused ending opens =>
    have onWords := isOnWords_of_refused opens
    obtain rfl : ending = .gaveUp trouble := gaveUp
    cases onWords
  | @unloaded request error opens unloaded =>
    refine ⟨request, opens, ?_⟩
    obtain ⟨_, cause, escaped⟩ | ⟨_, told, ends, codes⟩ := loadEnding_cases request.file error
    · cases escaped.symm.trans gaveUp
    · cases ends.symm.trans gaveUp
      refine codes.imp (And.imp_right (.project unloaded)) (And.imp_right ?_)
      rintro within ⟨again, outOfReach⟩
      cases unloaded.symm.trans again
      exact within outOfReach
  | unsettled => cases gaveUp
  | @checked request project settings opens loaded settled =>
    refine ⟨request, opens, .inr ?_⟩
    obtain ⟨_, ends | ⟨told, ends, code⟩⟩ := validateUnder_cases settings request project.project
    · cases ends.symm.trans gaveUp
    · cases ends.symm.trans gaveUp
      refine ⟨code, ?_⟩
      rintro ⟨unloaded, _⟩
      cases loaded.symm.trans unloaded

end ValidateCommand

/-! ## Reports -/

/-- Of what a command notes, only a status line can be impossible to show. -/
theorem exists_unshown_iff {threshold : Nat} {notices : List Notice} :
    (∃ error, (showNotices threshold notices).2 = some error) ↔
      ∃ status message error, .status status message ∈ notices ∧
        status.line message = .error error := by
  induction notices with
  | nil => simp [showNotices]
  | cons notice notices ih =>
    cases notice with
    | event happened => simpa [showNotices, Notice.text] using ih
    | status status message =>
      unfold showNotices
      cases shown : status.line message with
      | error error =>
        simp only [Notice.text, shown, Option.some.injEq, exists_eq', true_iff]
        exact ⟨status, message, error, List.mem_cons_self, shown⟩
      | ok line =>
        simp only [Notice.text, shown]
        rw [ih]
        constructor
        · rintro ⟨other, told, error, listed, fails⟩
          exact ⟨other, told, error, List.mem_cons_of_mem _ listed, fails⟩
        · rintro ⟨other, told, error, listed, fails⟩
          obtain same | listed := List.mem_cons.mp listed
          · cases same
            cases shown.symm.trans fails
          · exact ⟨other, told, error, listed, fails⟩

theorem conclusion_report (threshold : Nat) (transcript : Transcript) :
    (transcript.report threshold).conclusion =
      match (showNotices threshold transcript.allNotices).2 with
      | none => .reached transcript.ending
      | some error => .unshowable error := by
  unfold Transcript.report
  obtain ⟨errors, error?⟩ := showNotices threshold transcript.allNotices
  cases error? <;> rfl

/-- The exit code that a command chooses. What nobody foresees leaves none. -/
def Conclusion.code? : Conclusion → Option Nat
  | reached .completed => some 0
  | reached (.misused _) => some 2
  | reached (.gaveUp trouble) => some trouble.exitCode
  | reached (.escaped _) | unshowable _ => none

namespace CommandLine

/-- What a command about a project can meet that is not foreseen: a path that cannot be
one, or something that its request leads to. -/
def Unforeseen (environment : List (String × String)) (words : List String) (tree : Tree) :
    CommandKind → Prop
  | .compile =>
    (∃ fault, CompileCommand.opening words tree = .refused (.escaped (.path fault))) ∨
      ∃ request, CompileCommand.opening words tree = .asked request ∧
        CompileCommand.Unforeseen environment request tree
  | .validate =>
    (∃ fault, ValidateCommand.opening words = .refused (.escaped (.path fault))) ∨
      ∃ request, ValidateCommand.opening words = .asked request ∧
        ValidateCommand.Unforeseen environment request tree
  | .schema => False

/-- What files can keep a command about a project from. -/
def OutOfReach (environment : List (String × String)) (words : List String) (tree : Tree) :
    CommandKind → Prop
  | .compile =>
    ∃ request, CompileCommand.opening words tree = .asked request ∧
      CompileCommand.OutOfReach environment request tree
  | .validate =>
    ∃ request, ValidateCommand.opening words = .asked request ∧
      ValidateCommand.OutOfReach request tree
  | .schema => False

variable {environment : List (String × String)} {words rest : List String} {threshold : Nat}
  {command : CommandKind} {tree : Tree}

theorem escaped_iff (reads : command ≠ .schema) :
    (∃ cause, (answer (runCommand environment command rest) tree).ending = .escaped cause) ↔
      Unforeseen environment rest tree command := by
  cases command with
  | compile => exact (CompileCommand.course_run environment rest tree).escaped_iff
  | validate => exact (ValidateCommand.course_run environment rest tree).escaped_iff
  | schema => exact absurd rfl reads

theorem exitCode_cases {trouble : Trouble} (reads : command ≠ .schema)
    (gaveUp : (answer (runCommand environment command rest) tree).ending = .gaveUp trouble) :
    trouble.exitCode = systemTrouble ∧ OutOfReach environment rest tree command ∨
      trouble.exitCode = userMistake ∧ ¬OutOfReach environment rest tree command := by
  cases command with
  | compile =>
    obtain ⟨request, opens, codes⟩ :=
      (CompileCommand.course_run environment rest tree).exitCode_cases gaveUp
    simpa [OutOfReach, opens] using codes
  | validate =>
    obtain ⟨request, opens, codes⟩ :=
      (ValidateCommand.course_run environment rest tree).exitCode_cases gaveUp
    simpa [OutOfReach, opens] using codes
  | schema => exact absurd rfl reads

/-- Compiling and validating end with an exit code, unless something happens that they
do not foresee or a message cannot be shown. The code is zero if the command is
completed, and two over misuse. If the command gives up, it is two where files are out
of reach, and one for any other reason. -/
theorem exit_code_unless_unforeseen (environment : List (String × String))
    (called : readPreamble words = .ok (.proceed threshold (command.name :: rest)))
    (reads : command ≠ .schema) (tree : Tree) :
    ((answer (run environment words) tree).conclusion.code? = none ↔
      Unforeseen environment rest tree command ∨
        ∃ status message error,
          .status status message ∈ (answer (runCommand environment command rest) tree).allNotices ∧
            status.line message = .error error) ∧
    ∀ code, (answer (run environment words) tree).conclusion.code? = some code →
      (code = 0 ∧ (answer (run environment words) tree).conclusion = .reached .completed) ∨
      (code = 2 ∧ ∃ error,
        (answer (run environment words) tree).conclusion = .reached (.misused error)) ∨
      ∃ trouble,
        (answer (run environment words) tree).conclusion = .reached (.gaveUp trouble) ∧
          (code = 2 ∧ OutOfReach environment rest tree command ∨
            code = 1 ∧ ¬OutOfReach environment rest tree command) := by
  rw [answer_run called, Report.conclusion_spellOut, conclusion_report, ← escaped_iff reads,
    ← @exists_unshown_iff threshold]
  cases unshown : (showNotices threshold
      (answer (runCommand environment command rest) tree).allNotices).2 with
  | some error => simp [Conclusion.code?]
  | none =>
    cases ending : (answer (runCommand environment command rest) tree).ending with
    | completed => simp [Conclusion.code?, eq_comm]
    | misused error => simp [Conclusion.code?, eq_comm]
    | escaped cause => simp [Conclusion.code?]
    | gaveUp trouble =>
      refine ⟨by simp [Conclusion.code?], ?_⟩
      rintro _ ⟨⟩
      exact .inr (.inr ⟨trouble, rfl, exitCode_cases reads ending⟩)

/-- A tree with a directory where a project is looked for. -/
def directoryTree : Tree where
  entries := [(["project.yaml"], .directory)]

/-- A directory in the place of a project cannot be read, but it is foreseen and not out
of reach. -/
theorem directoryTree_exit_code :
    readPreamble ["validate", "--strict"] = .ok (.proceed 30 ["validate", "--strict"]) ∧
      (answer (run [] ["validate", "--strict"]) directoryTree).conclusion.code? = some 1 ∧
      ¬Unforeseen [] ["--strict"] directoryTree .validate ∧
      ¬OutOfReach [] ["--strict"] directoryTree .validate := by
  have called : readPreamble ["validate", "--strict"] =
      .ok (.proceed 30 (CommandKind.validate.name :: ["--strict"])) := by decide +kernel
  have code : (answer (run [] ["validate", "--strict"]) directoryTree).conclusion.code? =
      some 1 := by decide +kernel
  obtain ⟨escapes, codes⟩ := exit_code_unless_unforeseen [] called (by decide) directoryTree
  refine ⟨called, code, ?_, ?_⟩
  · intro unforeseen
    cases code.symm.trans (escapes.mpr (.inl unforeseen))
  · obtain ⟨⟨⟩, _⟩ | ⟨⟨⟩, _⟩ | ⟨trouble, _, ⟨⟨⟩, _⟩ | ⟨_, within⟩⟩ := codes 1 code
    exact within

/-- A tree with a project whose only byte writes no text. -/
def undecodableTree : Tree where
  entries := [(["project.yaml"], .file ⟨#[0xff]⟩)]

/-- Bytes that write no text leave no exit code. -/
theorem undecodableTree_escapes :
    (answer (run [] ["compile"]) undecodableTree).conclusion.code? = none ∧
      (answer (run [] ["validate"]) undecodableTree).conclusion.code? = none := by
  decide +kernel

end CommandLine

end RunOnce.Command
