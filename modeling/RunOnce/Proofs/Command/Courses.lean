import RunOnce.Command.CommandLine
import RunOnce.Proofs.Command.ClosedPrograms
import RunOnce.Proofs.Source.Looking

/-!
# Courses of commands

The ways in which compiling and validating can go on a tree of files, one for each
place at which the command can end. What is known of every run is proved on these.
Only the last ways of compiling, which write a program to a file, leave another
tree behind.
-/

namespace RunOnce.Command

open RunOnce.Files
open RunOnce.Journal
open RunOnce.Model
open RunOnce.Source
open RunOnce.Text

/-- What the words after the name of a command come to. -/
inductive Opening (Request : Type)
  | helped
  | refused (ending : Ending)
  | asked (request : Request)

/-- How a command ends whose project cannot be loaded. -/
def loadEnding (shown : String) (error : LoadError) : Ending :=
  match Trouble.ofLoadError shown (Path.ofText shown) error with
  | .ok trouble => .gaveUp trouble
  | .error escape => .escaped escape

namespace CompileCommand

/-- Whether the path for the program is that of a directory. -/
def outputIsDirectory (given : List Given) : StateM Tree Bool :=
  match outputOf given with
  | some path => Store.namesDirectory path
  | none => pure false

/-- The request that options make, or how the command ends over them. -/
def requestOrEnding (given : List Given) (outputIsDirectory : Bool) : Except Ending Request :=
  match firstProblem? given outputIsDirectory with
  | some ending => .error ending
  | none => .ok (requestOf given)

theorem keeps_outputIsDirectory (given : List Given) : Keeps (outputIsDirectory given) := by
  unfold outputIsDirectory
  split
  · exact keeps_namesDirectory _
  · exact keeps_pure _

theorem readRequest_eq (given : List Given) :
    (readRequest given : StateM Tree (Except Ending Request)) =
      outputIsDirectory given >>= fun outputIsDirectory =>
        pure (requestOrEnding given outputIsDirectory) := by
  have decides : ∀ outputIsDirectory, (match firstProblem? given outputIsDirectory with
      | some ending => pure (Except.error ending)
      | none => pure (Except.ok (requestOf given)) : StateM Tree (Except Ending Request)) =
        pure (requestOrEnding given outputIsDirectory) := by
    intro outputIsDirectory
    unfold requestOrEnding
    split <;> rfl
  unfold readRequest outputIsDirectory
  cases outputOf given with
  | none => exact congrArg (pure false >>= ·) (funext decides)
  | some path => exact congrArg (Store.namesDirectory path >>= ·) (funext decides)

theorem keeps_readRequest (given : List Given) :
    Keeps (readRequest given : StateM Tree (Except Ending Request)) := by
  rw [readRequest_eq]
  exact (keeps_outputIsDirectory given).bind fun _ => keeps_pure _

theorem answer_readRequest (given : List Given) (tree : Tree) :
    answer (readRequest given) tree =
      requestOrEnding given (answer (outputIsDirectory given) tree) := by
  rw [readRequest_eq, answer_bind_of_keeps (keeps_outputIsDirectory given)]
  rfl

/-- What words come to on a tree. -/
def opening (words : List String) (tree : Tree) : Opening Request :=
  match readWords options true words with
  | .error error => .refused (.misused error)
  | .ok read =>
    if read.given.contains .help then .helped
    else
      match answer (readRequest read.given) tree, read.onlyOptions with
      | .error ending, _ => .refused ending
      | .ok _, .error error => .refused (.misused error)
      | .ok request, .ok _ => .asked request

/-- How the command ends without settings. -/
def settingsEnding : SettingsError → Ending
  | .invalid issues => .gaveUp (.invalidSettings issues)
  | error => .escaped (.settings error)

/-- What compiling for a request comes to once there are settings. -/
inductive Compiles (environment : List (String × String)) (request : Request) (tree : Tree)
    (events : List Event) (outcome : Except CompileError Compile.Compiled) : Prop
  | intro {settings : Settings}
      (settled : answer (findSettings request.arguments environment) tree = .ok settings)
      (compiled : answer (compileFile none settings request.globals (Path.ofText request.file))
        tree = ⟨events, outcome⟩)

/-- The ways in which compiling can go. -/
inductive Course (environment : List (String × String)) (words : List String) (tree : Tree) :
    Transcript → Tree → Prop
  | helped (opens : opening words tree = .helped) :
      Course environment words tree { output := usage } tree
  | refused {ending : Ending} (opens : opening words tree = .refused ending) :
      Course environment words tree { ending := ending } tree
  | unsettled {request : Request} {error : SettingsError}
      (opens : opening words tree = .asked request)
      (unsettled : answer (findSettings request.arguments environment) tree = .error error) :
      Course environment words tree { ending := settingsEnding error } tree
  | unloaded {request : Request} {events : List Event} {error : LoadError}
      (opens : opening words tree = .asked request)
      (fails : Compiles environment request tree events (.error (.load error))) :
      Course environment words tree
        { notices := events.map .event, ending := loadEnding request.file error } tree
  | failed {request : Request} {events : List Event} {failure : Failure} {standIns : StandIns}
      (opens : opening words tree = .asked request)
      (fails : Compiles environment request tree events (.error (.failure failure standIns))) :
      Course environment words tree (.ofTrouble events (.compilation failure) standIns) tree
  | misnamed {request : Request} {events : List Event} {standIns : StandIns}
      (opens : opening words tree = .asked request)
      (fails : Compiles environment request tree events (.error (.damagedEntry standIns))) :
      Course environment words tree
        (.ofTrouble events (.load request.file (.invalid [damagedEntryIssue])) standIns) tree
  | printed {request : Request} {events : List Event} {program : Compile.Compiled}
      (opens : opening words tree = .asked request)
      (compiles : Compiles environment request tree events (.ok program))
      (toStream : request.output = none) (encodable : program.isEncodable = true) :
      Course environment words tree
        { notices := events.map .event, output := program.text, standIns := program.standIns } tree
  | unprinted {request : Request} {events : List Event} {program : Compile.Compiled}
      (opens : opening words tree = .asked request)
      (compiles : Compiles environment request tree events (.ok program))
      (toStream : request.output = none) (damaged : program.isEncodable = false) :
      Course environment words tree
        { notices := events.map .event, ending := .escaped .encoding,
          standIns := program.standIns } tree
  | written {request : Request} {events : List Event} {program : Compile.Compiled}
      {shown : String} {after : Tree} (opens : opening words tree = .asked request)
      (compiles : Compiles environment request tree events (.ok program))
      (toFile : request.output = some shown) (encodable : program.isEncodable = true)
      (writes : perform (Store.writeDeep (Path.ofText shown) (fileContent program)) tree =
        (.ok (), after)) :
      Course environment words tree
        { notices := events.map .event ++
            [.status .success (writtenMessage program (Path.ofText shown))],
          standIns := program.standIns } after
  | emptied {request : Request} {events : List Event} {program : Compile.Compiled}
      {shown : String} {after : Tree} (opens : opening words tree = .asked request)
      (compiles : Compiles environment request tree events (.ok program))
      (toFile : request.output = some shown) (damaged : program.isEncodable = false)
      (writes : perform (Store.writeDeep (Path.ofText shown) (fileContent program)) tree =
        (.ok (), after)) :
      Course environment words tree
        { notices := events.map .event, ending := .escaped .encoding,
          standIns := program.standIns } after
  | unwritten {request : Request} {events : List Event} {program : Compile.Compiled}
      {shown : String} {fault : Fault} {after : Tree}
      (opens : opening words tree = .asked request)
      (compiles : Compiles environment request tree events (.ok program))
      (toFile : request.output = some shown)
      (fails : perform (Store.writeDeep (Path.ofText shown) (fileContent program)) tree =
        (.error fault, after)) :
      Course environment words tree
        (.ofTrouble events (writeTrouble shown fault) program.standIns) after

variable {environment : List (String × String)} {words : List String} {tree : Tree}
  {request : Request}

theorem perform_run :
    perform (run environment words) tree =
      match opening words tree with
      | .helped => ({ output := usage }, tree)
      | .refused ending => ({ ending := ending }, tree)
      | .asked request => perform (execute environment request) tree := by
  unfold run opening
  cases readWords options true words with
  | error error => rfl
  | ok read =>
    dsimp only
    split
    · rfl
    · rw [perform_bind_of_keeps (keeps_readRequest read.given)]
      cases answer (readRequest read.given) tree with
      | error ending => rfl
      | ok request => cases read.onlyOptions <;> rfl

/-- Once a program is there, what is left is to hand it over. -/
theorem course_deliver {events : List Event} {program : Compile.Compiled}
    (opens : opening words tree = .asked request)
    (compiles : Compiles environment request tree events (.ok program)) :
    ∃ transcript after,
      perform (deliver request.output events program) tree = (transcript, after) ∧
        Course environment words tree transcript after := by
  unfold deliver
  cases toFile : request.output with
  | none =>
    cases encodable : program.isEncodable with
    | false => exact ⟨_, _, rfl, .unprinted opens compiles toFile encodable⟩
    | true => exact ⟨_, _, rfl, .printed opens compiles toFile encodable⟩
  | some shown =>
    dsimp only
    rw [perform_bind]
    cases writes : perform (Store.writeDeep (Path.ofText shown) (fileContent program)) tree with
    | mk outcome after =>
      cases outcome with
      | error fault => exact ⟨_, _, rfl, .unwritten opens compiles toFile writes⟩
      | ok done =>
        cases encodable : program.isEncodable with
        | false => exact ⟨_, _, rfl, .emptied opens compiles toFile encodable writes⟩
        | true => exact ⟨_, _, rfl, .written opens compiles toFile encodable writes⟩

theorem exists_course (environment : List (String × String)) (words : List String) (tree : Tree) :
    ∃ transcript after, perform (run environment words) tree = (transcript, after) ∧
      Course environment words tree transcript after := by
  rw [perform_run]
  cases opens : opening words tree with
  | helped => exact ⟨_, _, rfl, .helped opens⟩
  | refused ending => exact ⟨_, _, rfl, .refused opens⟩
  | asked request =>
    dsimp only
    unfold execute
    rw [perform_bind_of_keeps (keeps_findSettings _ _)]
    cases settled : answer (findSettings request.arguments environment) tree with
    | error error => cases error <;> exact ⟨_, _, rfl, .unsettled opens settled⟩
    | ok settings =>
      dsimp only
      unfold compileUnder
      rw [perform_bind_of_keeps (keeps_compileFile _ _ _ _)]
      cases compiled : answer (compileFile none settings request.globals
          (Path.ofText request.file)) tree with
      | mk events outcome =>
        have compiles : Compiles environment request tree events outcome := ⟨settled, compiled⟩
        cases outcome with
        | ok program => exact course_deliver opens compiles
        | error error =>
          cases error with
          | failure failure standIns => exact ⟨_, _, rfl, .failed opens compiles⟩
          | damagedEntry standIns => exact ⟨_, _, rfl, .misnamed opens compiles⟩
          | load error =>
            refine ⟨_, _, ?_, .unloaded opens compiles⟩
            dsimp only [loadEnding]
            cases Trouble.ofLoadError request.file (Path.ofText request.file) error <;> rfl

/-- Compiling goes in one of its ways. -/
theorem course_run (environment : List (String × String)) (words : List String) (tree : Tree) :
    Course environment words tree (answer (run environment words) tree)
      (perform (run environment words) tree).2 := by
  obtain ⟨transcript, after, performed, course⟩ := exists_course environment words tree
  rw [answer, performed]
  exact course

end CompileCommand

namespace ValidateCommand

/-- What words come to. -/
def opening (words : List String) : Opening Request :=
  match readWords options true words with
  | .error error => .refused (.misused error)
  | .ok read =>
    if read.given.contains .help then .helped
    else
      match readRequest read.given, read.onlyOptions with
      | .error ending, _ => .refused ending
      | _, .error error => .refused (.misused error)
      | .ok request, .ok _ => .asked request

/-- The ways in which validating can go. -/
inductive Course (environment : List (String × String)) (words : List String) (tree : Tree) :
    Transcript → Prop
  | helped (opens : opening words = .helped) :
      Course environment words tree { output := usage }
  | refused {ending : Ending} (opens : opening words = .refused ending) :
      Course environment words tree { ending := ending }
  | unloaded {request : Request} {error : LoadError} (opens : opening words = .asked request)
      (unloaded : answer (load request.globals (Path.ofText request.file)) tree = .error error) :
      Course environment words tree { ending := loadEnding request.file error }
  | unsettled {request : Request} {project : Loaded} {error : SettingsError}
      (opens : opening words = .asked request)
      (loaded : answer (load request.globals (Path.ofText request.file)) tree = .ok project)
      (unsettled : answer (findSettings [] environment) tree = .error error) :
      Course environment words tree { ending := .escaped (.settings error) }
  | checked {request : Request} {project : Loaded} {settings : Settings}
      (opens : opening words = .asked request)
      (loaded : answer (load request.globals (Path.ofText request.file)) tree = .ok project)
      (settled : answer (findSettings [] environment) tree = .ok settings) :
      Course environment words tree
        { validateUnder settings request project.project with standIns := project.standIns }

/-- Under given settings nothing is written to the output stream. The project is found
valid, or the user is told what is wrong with it. -/
theorem validateUnder_cases (settings : Settings) (request : Request) (project : Project) :
    (validateUnder settings request project).output = "" ∧
      ((validateUnder settings request project).ending = .completed ∨
        ∃ trouble, (validateUnder settings request project).ending = .gaveUp trouble ∧
          trouble.exitCode = userMistake) := by
  unfold validateUnder
  dsimp only
  split
  · exact ⟨rfl, .inr ⟨_, rfl, rfl⟩⟩
  · rw [reportReferences_eq]
    dsimp only
    split
    · exact ⟨rfl, .inr ⟨_, rfl, rfl⟩⟩
    · exact ⟨rfl, .inl rfl⟩

theorem perform_run (environment : List (String × String)) (words : List String) (tree : Tree) :
    perform (run environment words) tree =
      match opening words with
      | .helped => ({ output := usage }, tree)
      | .refused ending => ({ ending := ending }, tree)
      | .asked request => perform (execute environment request) tree := by
  unfold run opening
  cases readWords options true words with
  | error error => rfl
  | ok read =>
    dsimp only
    split
    · rfl
    · cases readRequest read.given with
      | error ending => rfl
      | ok request => cases read.onlyOptions <;> rfl

theorem exists_course (environment : List (String × String)) (words : List String) (tree : Tree) :
    ∃ transcript, perform (run environment words) tree = (transcript, tree) ∧
      Course environment words tree transcript := by
  rw [perform_run]
  cases opens : opening words with
  | helped => exact ⟨_, rfl, .helped opens⟩
  | refused ending => exact ⟨_, rfl, .refused opens⟩
  | asked request =>
    dsimp only
    unfold execute
    dsimp only
    rw [perform_bind_of_keeps (keeps_load _ _)]
    cases loaded : answer (load request.globals (Path.ofText request.file)) tree with
    | error error =>
      refine ⟨_, ?_, .unloaded opens loaded⟩
      dsimp only [loadEnding]
      cases Trouble.ofLoadError request.file (Path.ofText request.file) error <;> rfl
    | ok project =>
      dsimp only
      rw [perform_bind_of_keeps (keeps_findSettings _ _)]
      cases settled : answer (findSettings [] environment) tree with
      | error error => exact ⟨_, rfl, .unsettled opens loaded settled⟩
      | ok settings => exact ⟨_, rfl, .checked opens loaded settled⟩

theorem keeps_run (environment : List (String × String)) (words : List String) :
    Keeps (run environment words) := by
  intro tree
  obtain ⟨transcript, performed, _⟩ := exists_course environment words tree
  rw [performed]

/-- Validating goes in one of its ways. -/
theorem course_run (environment : List (String × String)) (words : List String) (tree : Tree) :
    Course environment words tree (answer (run environment words) tree) := by
  obtain ⟨transcript, performed, course⟩ := exists_course environment words tree
  rw [answer, performed]
  exact course

end ValidateCommand

namespace CommandLine

theorem find?_commands (command : CommandKind) : commands.find? command.name = some command := by
  cases command <;> decide

/-- Words that lead to a command end in a report of what the command leaves behind. -/
theorem perform_run {words rest : List String} {threshold : Nat} {command : CommandKind}
    (called : readPreamble words = .ok (.proceed threshold (command.name :: rest)))
    (environment : List (String × String)) (tree : Tree) :
    perform (run environment words) tree =
      (((answer (runCommand environment command rest) tree).report threshold).spellOut
          (answer (runCommand environment command rest) tree).standIns,
        (perform (runCommand environment command rest) tree).2) := by
  unfold run
  rw [called]
  dsimp only
  rw [find?_commands]
  rfl

theorem answer_run {words rest : List String} {threshold : Nat} {command : CommandKind}
    (called : readPreamble words = .ok (.proceed threshold (command.name :: rest)))
    (environment : List (String × String)) (tree : Tree) :
    answer (run environment words) tree =
      ((answer (runCommand environment command rest) tree).report threshold).spellOut
        (answer (runCommand environment command rest) tree).standIns :=
  congrArg Prod.fst (perform_run called environment tree)

end CommandLine

end RunOnce.Command
