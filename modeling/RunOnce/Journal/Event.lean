import RunOnce.Document.Value
import RunOnce.Journal.Level

/-!
# Events

What the compiler reports while it works. Each event has a level, a name and
named fields, which together form the record that a log keeps.
-/

namespace RunOnce.Journal

open RunOnce.Document

/-- A record of a log. -/
structure Record where
  level : Level
  name : String
  fields : List (String × Value)
deriving Repr

/-- What can happen during compilation. -/
inductive Event
  /-- A failure with details that are not part of its message. -/
  | failureDetails (kind message details : String)
  /-- A value could not be expanded and was kept as written. -/
  | expansionFallback (expression reason : String)
  /-- The reverse ordering maps were built, with so many entries each. -/
  | producersIndexed (before after : Nat)
  /-- A target's procedure was written. -/
  | targetCompiled (target : String) (children : Nat)
  /-- Only the first of several default targets is invoked. -/
  | defaultTargetsTruncated (invoked : String) (declared : List String)
  /-- A complete program was laid out. -/
  | programAssembled (targets properties : Nat) (defaultTarget : String)
  /-- The call graph has a cycle. -/
  | cycleDetected (cycle : List String)
  /-- A project file was read. -/
  | projectLoaded (path digest : String)
deriving DecidableEq, Repr

/-- A number as a field of a record. -/
def countField (n : Nat) : Value :=
  .int n

/-- The record of an event. -/
def Event.record : Event → Record
  | failureDetails kind message details =>
    ⟨.error, "flatbuild_error",
      [("error_type", .text kind), ("user_message", .text message),
        ("internal_details", .text details)]⟩
  | expansionFallback expression reason =>
    ⟨.debug, "expansion_fallback",
      [("expression", .text expression), ("reason", .text reason)]⟩
  | producersIndexed before after =>
    ⟨.debug, "dependency_index_built",
      [("before_entries", countField before), ("after_entries", countField after)]⟩
  | targetCompiled target children =>
    ⟨.debug, "target_compiled", [("target", .text target), ("children", countField children)]⟩
  | defaultTargetsTruncated invoked declared =>
    ⟨.info, "default_targets_truncated",
      [("invoked", .text invoked), ("declared", .ofTexts declared)]⟩
  | programAssembled targets properties defaultTarget =>
    ⟨.info, "program_assembled",
      [("component", .text "program_assembler"), ("targets", countField targets),
        ("properties", countField properties), ("default_target", .text defaultTarget)]⟩
  | cycleDetected cycle =>
    ⟨.error, "cycle_detected", [("cycle", .ofTexts cycle)]⟩
  | projectLoaded path digest =>
    ⟨.info, "project_loaded", [("path", .text path), ("source_hash", .text digest)]⟩

end RunOnce.Journal
