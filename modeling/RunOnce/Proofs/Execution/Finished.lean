import RunOnce.Proofs.Execution.Record

/-!
# What a finished run leaves behind

When a run has come to an end, every procedure it got to was entered once and
went through one script from beginning to end. This says how often things
happened, and in which order: the calls after a body are reached in turn, and
what they enter is entered between the end of the body and the mark.
-/

namespace RunOnce.Execution

open Relation
open RunOnce.Generated

theorem record_append (target : String) (later earlier : History) :
    record target (later ++ earlier) = record target earlier ++ record target later := by
  simp [record]

/-- A record is cut where the history is. -/
theorem exists_split_of_record {target : String} {history : History}
    {front back : List Occurrence} {occurrence : Occurrence}
    (whole : record target history = front ++ occurrence :: back) :
    ∃ later earlier, history = later ++ occurrence :: earlier ∧
      record target earlier = front ∧ record target later = back := by
  have kept : history.filter (fun other => other.actor = target) =
      back.reverse ++ occurrence :: front.reverse := by
    rw [← List.reverse_inj]
    simpa [record] using whole
  obtain ⟨newer, older, rfl, keptNewer, keptOlder⟩ := List.filter_eq_append_iff.mp kept
  obtain ⟨between, earlier, rfl, foreign, _, keptEarlier⟩ := List.filter_eq_cons_iff.mp keptOlder
  have keptBetween : between.filter (fun other => other.actor = target) = [] :=
    List.filter_eq_nil_iff.mpr foreign
  refine ⟨newer ++ between, earlier, by simp, ?_, ?_⟩
  · simp [record, keptEarlier]
  · simp [record, keptNewer, keptBetween]

namespace Outline

variable {outline : Outline} {program : Program} {valuation : Valuation}

/-! ## Scripts -/

/-- A script sets the flag of its target once. -/
theorem Script.count_marked {target : String} {occurrences : List Occurrence}
    (script : outline.Script target occurrences) : occurrences.count (.marked target) = 1 := by
  cases script with
  | skipped _ => simp
  | completed _ inBody _ =>
    have absent : ∀ names : List String,
        .marked target ∉ names.map (Occurrence.attempted target) := by simp
    have bodyAbsent : ∀ middle : List Occurrence,
        (∀ occurrence ∈ middle, occurrence.InBody target) → .marked target ∉ middle := by
      intro middle inBody listed
      rcases inBody _ listed with ⟨_, _, same⟩ | ⟨_, same⟩ <;> cases same
    simp [List.count_append, List.count_eq_zero_of_not_mem (absent _),
      List.count_eq_zero_of_not_mem (bodyAbsent _ inBody)]

/-- The actions of a script stand in the body, in the same order. -/
theorem Script.actions_sublist {target : String} {occurrences : List Occurrence}
    (script : outline.Script target occurrences) :
    (occurrences.filterMap Occurrence.action?).Sublist (outline.actions target) := by
  cases script with
  | skipped _ => exact List.nil_sublist _
  | completed _ _ written =>
    have idle : ∀ names : List String,
        (names.map (Occurrence.attempted target)).filterMap Occurrence.action? = [] := by
      intro names
      simp [List.filterMap_eq_nil_iff, Occurrence.action?]
    simpa [List.filterMap_append, List.filterMap_cons, idle, Occurrence.action?] using written

/-! ## Finished runs -/

/-- What a run has left behind when it has come to an end. -/
structure Complete (outline : Outline) (program : Program) (history : History) : Prop where
  acyclic : outline.Acyclic program
  callsFirst : Obeys (outline.CallsFirst program) history
  nested : Obeys (outline.Nested program) history
  ended : ∀ name, record name history = [] ∨
    ∃ done, record name history = .entered name :: done ∧ outline.Script name done
  flagged : ∀ name, outline.Reached program name → program.procedure? name ≠ none →
    Flagged history name

theorem complete_of_finishes (describes : outline.Describes program valuation)
    {history : History} (finishes : program.Finishes valuation history) :
    outline.Complete program history := by
  obtain ⟨count, finished⟩ := finishes
  have orderly := orderly_run describes count
  rw [finished] at orderly
  have recorded := recorded_run orderly.acyclic describes count
  rw [finished] at recorded
  exact ⟨orderly.acyclic, orderly.obeys, recorded.nested,
    fun name => recorded.ended name List.not_mem_nil,
    fun _ reached known => orderly.flagged_of_reached reached known⟩

namespace Complete

variable {history : History}

/-- Whatever a target did, it did after it was entered. -/
theorem script_of_mem (complete : outline.Complete program history) {occurrence : Occurrence}
    (happened : occurrence ∈ history) :
    ∃ done, record occurrence.actor history = .entered occurrence.actor :: done ∧
      outline.Script occurrence.actor done := by
  have listed := mem_record_iff.mpr happened
  rcases complete.ended occurrence.actor with untouched | whole
  · rw [untouched] at listed
    exact absurd listed List.not_mem_nil
  · exact whole

/-- The procedures that were entered are those that the run gets to. -/
theorem entered_iff (complete : outline.Complete program history) {name : String} :
    .entered name ∈ history ↔
      program.procedure? name ≠ none ∧ outline.Reached program name := by
  constructor
  · intro entered
    obtain ⟨later, earlier, rfl⟩ := List.append_of_mem entered
    exact complete.callsFirst.of_append
  · rintro ⟨known, reached⟩
    obtain ⟨done, whole, _⟩ := complete.script_of_mem (complete.flagged name reached known)
    exact mem_record_iff.mp (whole ▸ List.mem_cons_self)

/-- A procedure that was entered was entered once and set its flag once. -/
theorem count_of_entered (complete : outline.Complete program history) {name : String}
    (entered : .entered name ∈ history) :
    history.count (.entered name) = 1 ∧ history.count (.marked name) = 1 := by
  obtain ⟨done, whole, script⟩ := complete.script_of_mem entered
  have once := List.count_eq_zero_of_not_mem (script.entered_not_mem name)
  have mark := script.count_marked
  constructor
  · rw [← count_record, whole]
    simpa [Occurrence.actor] using once
  · rw [← count_record]
    simp only [Occurrence.actor] at whole mark ⊢
    rw [whole]
    simpa using mark

/-- The flag of a procedure that was not entered was not set. -/
theorem count_of_not_entered (complete : outline.Complete program history) {name : String}
    (spared : .entered name ∉ history) :
    history.count (.entered name) = 0 ∧ history.count (.marked name) = 0 := by
  refine ⟨List.count_eq_zero_of_not_mem spared, List.count_eq_zero_of_not_mem ?_⟩
  intro flagged
  obtain ⟨done, whole, _⟩ := complete.script_of_mem flagged
  exact spared (mem_record_iff.mp (whole ▸ List.mem_cons_self))

/-- Every action that stands in a body is done at most once, in its turn. -/
theorem actions_sublist (complete : outline.Complete program history) (name : String) :
    ((record name history).filterMap Occurrence.action?).Sublist (outline.actions name) := by
  rcases complete.ended name with untouched | ⟨done, whole, script⟩
  · simp [untouched]
  · rw [whole]
    exact script.actions_sublist

/-- A skipped target only sets its flag. -/
theorem record_of_skipped (complete : outline.Complete program history) {name : String}
    (entered : .entered name ∈ history) (skipped : outline.Skipped name) :
    record name history = [.entered name, .marked name] := by
  obtain ⟨done, whole, script⟩ := complete.script_of_mem entered
  cases script with
  | skipped _ => exact whole
  | completed runs _ _ => exact absurd skipped runs

/-- What a target has on record with its flag still to be set. -/
theorem exists_split_of_marked (complete : outline.Complete program history) {name : String}
    (entered : .entered name ∈ history) (runs : ¬outline.Skipped name) :
    ∃ later earlier middle, history = later ++ .marked name :: earlier ∧
      record name later = [] ∧
      record name earlier = .entered name :: ((outline.early name).map (.attempted name) ++
        middle ++ (outline.late name).map (.attempted name)) := by
  obtain ⟨done, whole, script⟩ := complete.script_of_mem entered
  cases script with
  | skipped skipped => exact absurd skipped runs
  | @completed middle _ inBody _ =>
    rw [← List.cons_append] at whole
    obtain ⟨later, earlier, split, before, after⟩ := exists_split_of_record whole
    exact ⟨later, earlier, middle, split, after, before⟩

/-- What has set its flag has been entered before. -/
theorem entered_of_flagged {later earlier : History}
    (complete : outline.Complete program (later ++ earlier)) {name : String}
    (flagged : Flagged earlier name) : .entered name ∈ earlier := by
  obtain ⟨done, whole, _⟩ := complete.script_of_mem (flagged.append later)
  rw [record_append] at whole
  have listed : .marked name ∈ record name earlier := mem_record_iff.mpr flagged
  cases start : record name earlier with
  | nil =>
    rw [start] at listed
    exact absurd listed List.not_mem_nil
  | cons first others =>
    simp only [Occurrence.actor, start, List.cons_append, List.cons.injEq] at whole
    exact mem_record_iff.mp (start ▸ whole.1 ▸ List.mem_cons_self)

/-- The calls after a body are reached in turn once the body is over, and when
the flag is set, the flags of all called targets are. Those that were not set at
the end of the body belong to targets entered since. -/
theorem late_calls (complete : outline.Complete program history) {name : String}
    (entered : .entered name ∈ history) (runs : ¬outline.Skipped name) :
    ∃ later afterBody upToBody,
      history = later ++ .marked name :: (afterBody ++ upToBody) ∧
      record name later = [] ∧
      record name afterBody = (outline.late name).map (.attempted name) ∧
      afterBody.getLast? = ((outline.late name).map (.attempted name)).head? ∧
      ∀ callee ∈ outline.late name, program.procedure? callee ≠ none →
        Flagged (afterBody ++ upToBody) callee ∧
          (¬Flagged upToBody callee → .entered callee ∈ afterBody) := by
  obtain ⟨known, reached⟩ := complete.entered_iff.mp entered
  obtain ⟨later, earlier, middle, rfl, afterwards, before⟩ :=
    complete.exists_split_of_marked entered runs
  have marks : ∀ callee ∈ outline.late name, program.procedure? callee ≠ none →
      outline.Live program name callee ∧ Flagged earlier callee := by
    intro callee called callable
    have live : outline.Live program name callee :=
      ⟨known, callable, runs, List.mem_append_right _ called⟩
    exact ⟨live, complete.callsFirst.of_append callee live⟩
  cases calls : outline.late name with
  | nil => exact ⟨later, [], earlier, rfl, afterwards, rfl, rfl, by simp⟩
  | cons first others =>
    rw [calls, List.map_cons, ← List.cons_append] at before
    obtain ⟨newer, upToBody, rfl, _, attempts⟩ := exists_split_of_record before
    refine ⟨later, newer ++ [.attempted name first], upToBody, by simp, afterwards, ?_, by simp, ?_⟩
    · simp [record_append, record_cons, attempts, Occurrence.actor]
    · intro callee called callable
      obtain ⟨live, flagged⟩ := marks callee (calls ▸ called) callable
      refine ⟨by simpa using flagged, ?_⟩
      intro unflagged
      rw [List.append_cons] at complete
      have enteredBefore := complete.entered_of_flagged flagged
      rw [List.append_cons] at enteredBefore
      rcases List.mem_append.mp enteredBefore with since | sooner
      · exact since
      · -- A target entered before and not over would lead to this one and close a cycle.
        have nested := complete.nested
        rw [← List.append_assoc] at nested
        rcases nested.of_append callee sooner with ended | leads
        · exact absurd ended unflagged
        · exact absurd (TransGen.head' live leads) (complete.acyclic name reached)

end Complete

end Outline

end RunOnce.Execution
