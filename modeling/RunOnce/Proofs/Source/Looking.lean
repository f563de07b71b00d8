import RunOnce.Proofs.Files.Actions
import RunOnce.Proofs.Outcome
import RunOnce.Source.Compilation
import RunOnce.Source.Configuration

/-!
# Looking for projects and settings

Loading a project, compiling it and finding settings only look at files. A file
that cannot be loaded is not compiled either, for the same reason.
-/

namespace RunOnce.Source

open RunOnce.Compile
open RunOnce.Document
open RunOnce.Expansion
open RunOnce.Files
open RunOnce.Journal
open RunOnce.Journal.Traced
open RunOnce.Model
open RunOnce.Text

/-! ## Projects -/

theorem keeps_fetch (path : Path) : Keeps (fetch path) := by
  apply (keeps_lookUp path).bind
  intro found
  split
  · exact keeps_pure _
  · exact keeps_pure _
  · exact keeps_pure _
  · exact (keeps_read path).bind fun _ => keeps_pure _

theorem keeps_load (globals : List (String × String)) (path : Path) :
    Keeps (load globals path) :=
  (keeps_fetch path).bind fun _ => keeps_pure _

theorem keeps_compileFile (expander? : Option Expander) (settings : Settings)
    (globals : List (String × String)) (path : Path) :
    Keeps (compileFile expander? settings globals path) := by
  apply (keeps_fetch path).bind
  intro content
  split <;> exact keeps_pure _

/-! ## Settings -/

theorem keeps_fetchEnvFile (path : Path) : Keeps (fetchEnvFile path) := by
  apply (keeps_lookUp path).bind
  intro found
  split
  · exact (keeps_read path).bind fun _ => keeps_pure _
  · exact keeps_pure _
  · exact keeps_pure _
  · exact keeps_pure _

theorem keeps_readEnvFiles (encoding : String) (environment : List (String × String))
    (files : List String) : Keeps (readEnvFiles encoding environment files) := by
  induction files with
  | nil => exact keeps_pure _
  | cons file files ih =>
    apply (keeps_fetchEnvFile _).bind
    intro content
    split
    · exact keeps_pure _
    · exact ih
    · split
      · exact keeps_pure _
      · exact ih.bind fun _ => keeps_pure _

theorem keeps_secretDirectories (places : List String) : Keeps (secretDirectories places) := by
  induction places with
  | nil => exact keeps_pure _
  | cons place places ih =>
    apply (keeps_lookUp _).bind
    intro found
    split
    · exact keeps_pure _
    · exact ih.bind fun _ => keeps_pure _
    · exact ih

theorem keeps_findSecret (search : Settings.Search) (setting : String)
    (directories : List Path) : Keeps (findSecret search setting directories) := by
  induction directories with
  | nil => exact keeps_pure _
  | cons directory directories ih =>
    apply (keeps_list directory).bind
    intro names
    split
    · exact ih
    · apply (keeps_read _).bind
      intro content
      split
      · exact ih
      · split <;> exact keeps_pure _

theorem keeps_findSecrets (search : Settings.Search) (directories : List Path)
    (settings : List String) : Keeps (findSecrets search directories settings) := by
  induction settings with
  | nil => exact keeps_pure _
  | cons setting settings ih =>
    apply (keeps_findSecret search setting directories.reverse).bind
    intro secret
    split
    · exact keeps_pure _
    · exact ih.bind fun _ => keeps_pure _

theorem keeps_findSettings (arguments : List (String × Value))
    (environment : List (String × String)) : Keeps (findSettings arguments environment) := by
  apply (keeps_readEnvFiles _ _ _).bind
  intro entries
  split
  · exact keeps_pure _
  · apply (keeps_secretDirectories _).bind
    intro directories
    split
    · exact keeps_pure _
    · exact (keeps_findSecrets _ _ _).bind fun _ => keeps_pure _

/-! ## Compiling what is loaded -/

variable {expander? : Option Expander} {settings : Settings}
  {globals : List (String × String)} {path : Path} {tree : Tree}

theorem answer_load :
    answer (load globals path) tree =
      (answer (fetch path) tree).bind (readProject (otherCharacters globals path)) := by
  unfold load
  rw [answer_bind_of_keeps (keeps_fetch path)]
  rfl

theorem answer_compileFile :
    answer (compileFile expander? settings globals path) tree =
      match answer (fetch path) tree with
      | .error error => .ofExcept (.error (.load error))
      | .ok content => compileContent expander? settings globals path content := by
  unfold compileFile
  rw [answer_bind_of_keeps (keeps_fetch path)]
  cases answer (fetch path) tree <;> rfl

/-- Once it is loaded, a project does not fail to load. -/
theorem complete_ne_load {standIns : StandIns} {content : ByteArray} {compiled : Compiled}
    {error : LoadError} : complete standIns content compiled ≠ .error (.load error) := by
  unfold complete
  split <;> simp

/-- Compiling a content ends with an error of loading exactly if the content is no
project. -/
theorem outcome_compileContent_eq_load_iff {content : ByteArray} {error : LoadError} :
    (compileContent expander? settings globals path content).outcome = .error (.load error) ↔
      readProject (otherCharacters globals path) content = .error error := by
  unfold compileContent
  cases readProject (otherCharacters globals path) content with
  | error other => simp [outcome_bind_eq_error_iff, Traced.ofExcept, Except.mapError]
  | ok loaded =>
    have read : (Traced.ofExcept ((Except.ok loaded : Except LoadError Loaded).mapError
        CompileError.load)).outcome = .ok loaded := rfl
    rw [Traced.outcome_bind_of_ok read, Traced.outcome_bind_of_ok rfl, Traced.outcome_bind,
      Traced.outcome_mapError]
    cases (compileWith expander? settings globals loaded.project).outcome with
    | error failure => simp [Except.mapError, Except.bind]
    | ok compiled => simpa [Except.mapError, Except.bind, Traced.ofExcept] using complete_ne_load

/-- Compiling a file ends with an error of loading exactly if loading does. -/
theorem outcome_compileFile_eq_load_iff {error : LoadError} :
    (answer (compileFile expander? settings globals path) tree).outcome = .error (.load error) ↔
      answer (load globals path) tree = .error error := by
  rw [answer_compileFile, answer_load]
  cases answer (fetch path) tree with
  | error other => simp [Traced.ofExcept, Except.bind]
  | ok content => exact outcome_compileContent_eq_load_iff

end RunOnce.Source
