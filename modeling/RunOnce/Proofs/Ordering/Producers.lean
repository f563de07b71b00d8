import RunOnce.Proofs.Ordering.Failures
import RunOnce.Proofs.Ordering.TargetList

/-!
# The index of producers

The maps of producers are built by entering one target after another, and each of them
under one name after another. What comes out does not show this: a name has an entry
exactly if it is listed, the entries stand in the order in which their names were first
listed, and each holds the targets that list its name, in order of declaration and as
often as they list it. Building fails over the first list that does not expand.
-/

namespace RunOnce.Ordering

open RunOnce.Expansion
open RunOnce.Journal
open RunOnce.Journal.Traced
open RunOnce.Model
open RunOnce.Text

namespace Producers

/-! ## Entries -/

/-- Whether a map has an entry for each of the names, in the order in which they first
occur, and no entry is empty. -/
structure Indexes (names : List String) (map : Assoc (List String)) : Prop where
  keys : map.keys = names.eraseDups
  filled : ∀ entry ∈ map, entry.2 ≠ []

theorem indexes_nil : Indexes [] [] :=
  ⟨rfl, List.forall_mem_nil _⟩

/-- Entering a producer under one more name. -/
theorem Indexes.update {names : List String} {map : Assoc (List String)}
    (indexes : Indexes names map) (name producer : String) :
    Indexes (names ++ [name])
      (map.update name fun listed => listed.getD [] ++ [producer]) := by
  constructor
  · rw [Assoc.keys_update, indexes.keys, List.eraseDups_append]
    by_cases old : name ∈ names <;> simp [List.removeAll, old, List.eraseDups_cons]
  · intro entry listed
    rcases Assoc.mem_update listed with old | ⟨producers, rfl⟩
    · exact indexes.filled entry old
    · exact List.append_ne_nil_of_right_ne_nil _ (List.cons_ne_nil _ _)

/-- Entering a producer under several names. -/
theorem Indexes.enter {names : List String} {map : Assoc (List String)}
    (indexes : Indexes names map) (producer : String) (more : List String) :
    Indexes (names ++ more) (enter producer more map) := by
  induction more generalizing names map with
  | nil => simpa [Producers.enter] using indexes
  | cons name rest ih =>
    have entered := ih (indexes.update name producer)
    rwa [List.append_assoc] at entered

/-! ## Maps of producers -/

/-- Entering a target enters it under the names in both of its lists. -/
theorem eq_enter_of_addTarget {expander : Expander} {target : Target}
    {producers result : Producers}
    (added : (producers.addTarget expander target).outcome = .ok result) :
    result =
      ⟨enter target.name (listed expander .before target) producers.beforeMap,
        enter target.name (listed expander .after target) producers.afterMap⟩ := by
  obtain ⟨before, readBefore, added⟩ := outcome_bind_eq_ok_iff.mp added
  obtain ⟨after, readAfter, added⟩ := outcome_bind_eq_ok_iff.mp added
  cases added
  rw [((expandTargetList_eq_ok_iff .before).mp readBefore).2,
    ((expandTargetList_eq_ok_iff .after).mp readAfter).2]

theorem indexes_addTargets {expander : Expander} {targets : List Target}
    {producers result : Producers}
    (added : (producers.addTargets expander targets).outcome = .ok result)
    {before after : List String} (indexesBefore : Indexes before producers.beforeMap)
    (indexesAfter : Indexes after producers.afterMap) :
    Indexes (before ++ targets.flatMap (listed expander .before)) result.beforeMap ∧
      Indexes (after ++ targets.flatMap (listed expander .after)) result.afterMap := by
  induction targets generalizing producers before after with
  | nil =>
    cases added
    simpa using And.intro indexesBefore indexesAfter
  | cons target rest ih =>
    obtain ⟨entered, first, others⟩ := outcome_bind_eq_ok_iff.mp added
    cases eq_enter_of_addTarget first
    simp only [List.flatMap_cons, ← List.append_assoc]
    exact ih others (indexesBefore.enter _ _) (indexesAfter.enter _ _)

/-- The maps have the names that targets list, as they are first listed. -/
theorem indexes_ofTargets {expander : Expander} {targets : List Target} {producers : Producers}
    (built : (ofTargets expander targets).outcome = .ok producers) :
    Indexes (targets.flatMap (listed expander .before)) producers.beforeMap ∧
      Indexes (targets.flatMap (listed expander .after)) producers.afterMap := by
  obtain ⟨result, added, reported⟩ := outcome_bind_eq_ok_iff.mp built
  cases reported
  exact indexes_addTargets added indexes_nil indexes_nil

theorem listedName_of_mem_listed {expander : Expander} {field : OrderingField} {target : Target}
    {name : String} (lists : name ∈ listed expander field target) : ListedName name := by
  unfold listed at lists
  split at lists
  · split at lists
    · exact listedName_of_mem lists
    · cases lists
  · cases lists

/-- What is an entry's name is listed, so it looks like a listed name. -/
theorem Indexes.listedName {expander : Expander} {field : OrderingField} {targets : List Target}
    {map : Assoc (List String)}
    (indexes : Indexes (targets.flatMap (listed expander field)) map) {name : String}
    (key : name ∈ map.keys) : ListedName name := by
  rw [indexes.keys, List.mem_eraseDups] at key
  obtain ⟨target, _, lists⟩ := List.mem_flatMap.mp key
  exact listedName_of_mem_listed lists

/-! ## The first failure -/

/-- The first failure over a list of targets to run before or after: of several targets
the first one counts, and of its two lists the one of targets to run before. -/
theorem head?_producerFailures_eq_some_iff {expander : Expander} {targets : List Target}
    {failure : Failure} :
    (producerFailures expander targets).head? = some failure ↔
      ∃ earlier target later, targets = earlier ++ target :: later ∧
        (∃ field, (field = .before ∨ field = .after ∧ Expands expander .before target) ∧
          listFailure? expander field target = some failure) ∧
        ∀ other ∈ earlier, Expands expander .before other ∧ Expands expander .after other := by
  have heads : ∀ target : Target,
      ((listFailure? expander .before target).toList ++
        (listFailure? expander .after target).toList).head? =
      (listFailure? expander .before target).or (listFailure? expander .after target) := by
    intro target
    simp [List.head?_append, Option.head?_toList]
  have first : ∀ target : Target,
      (listFailure? expander .before target).or (listFailure? expander .after target) =
          some failure ↔
        ∃ field, (field = .before ∨ field = .after ∧ Expands expander .before target) ∧
          listFailure? expander field target = some failure := by
    intro target
    simp only [Option.or_eq_some_iff, listFailure?_eq_none_iff, or_and_right, exists_or,
      exists_eq_left, and_assoc]
  simp only [producerFailures, List.head?_flatMap, heads, List.findSome?_eq_some_iff, first,
    Option.or_eq_none_iff, listFailure?_eq_none_iff]

/-! ## What producers are -/

/-- The producers of targets are found exactly if all lists of targets to run before and
after are blank or expand. If not, the failure is about the first target with a list that
does not, about its list of targets to run before if this is one, and tells the raw list.
If they are found, each name has the targets that list it, in order of declaration and as
often as they list it. The names with an entry are those that are listed, in the order in
which they first are; all of them look like listed names, and no entry is empty. -/
theorem collects_what_targets_list (expander : Expander) (targets : List Target) :
    ((∃ producers, (ofTargets expander targets).outcome = .ok producers) ↔
      ∀ target ∈ targets, Expands expander .before target ∧ Expands expander .after target) ∧
    (∀ failure, (ofTargets expander targets).outcome = .error failure ↔
      ∃ earlier target later, targets = earlier ++ target :: later ∧
        (∃ field : OrderingField,
          (field = .before ∨ field = .after ∧ Expands expander .before target) ∧
          hasText (field.raw target) = true ∧
          ∃ reason, expander (field.raw target) = .error reason ∧
            failure = .controlFlow target.name field.label (field.raw target) reason.text) ∧
        ∀ other ∈ earlier, Expands expander .before other ∧ Expands expander .after other) ∧
    ∀ producers, (ofTargets expander targets).outcome = .ok producers →
      (∀ name, producers.before name = requesters expander .before targets name ∧
        producers.after name = requesters expander .after targets name) ∧
      producers.beforeMap.keys = (targets.flatMap (listed expander .before)).eraseDups ∧
      producers.afterMap.keys = (targets.flatMap (listed expander .after)).eraseDups ∧
      (∀ name ∈ producers.beforeMap.keys ++ producers.afterMap.keys, ListedName name) ∧
      ∀ entry ∈ producers.beforeMap ++ producers.afterMap, entry.2 ≠ [] := by
  refine ⟨?_, ?_, ?_⟩
  · rw [(failsInOrder_ofTargets expander targets).exists_ok_iff, producerFailures_eq_nil_iff]
  · intro failure
    rw [failsInOrder_ofTargets expander targets failure, head?_producerFailures_eq_some_iff]
    simp only [listFailure?, textFailure?_eq_some_iff]
  · intro producers built
    obtain ⟨_, entered⟩ := ofTargets_eq_ok built
    obtain ⟨before, after⟩ := indexes_ofTargets built
    refine ⟨entered, before.keys, after.keys, ?_, ?_⟩
    · intro name key
      rcases List.mem_append.mp key with key | key
      · exact before.listedName key
      · exact after.listedName key
    · intro entry listed
      rcases List.mem_append.mp listed with listed | listed
      · exact before.filled entry listed
      · exact after.filled entry listed

/-- Targets that list names more than once, with blanks and empty places between them, and
of which two have the same name. -/
def scatteredTargets : List Target :=
  [{ name := "Clean", beforeTargets := " Test ;; Build;Test", afterTargets := ";Pack" },
    { name := "Lint", beforeTargets := "Build", afterTargets := " " },
    { name := "Clean", beforeTargets := "Ghost;Test" }]

theorem scatteredTargets_collected :
    ∃ producers, (ofTargets .ok scatteredTargets).outcome = .ok producers ∧
      producers.beforeMap.keys = ["Test", "Build", "Ghost"] ∧
      producers.before "Test" = ["Clean", "Clean", "Clean"] ∧
      producers.before "Build" = ["Clean", "Lint"] ∧
      producers.afterMap.keys = ["Pack"] := by
  obtain ⟨found, _, index⟩ := collects_what_targets_list .ok scatteredTargets
  obtain ⟨producers, built⟩ := found.mpr (fun _ _ => ⟨fun _ => ⟨_, rfl⟩, fun _ => ⟨_, rfl⟩⟩)
  obtain ⟨entered, before, after, _⟩ := index producers built
  refine ⟨producers, built, before.trans ?_, ?_, ?_, after.trans ?_⟩
  · decide
  · rw [(entered "Test").1]
    decide
  · rw [(entered "Build").1]
    decide
  · decide

end Producers

end RunOnce.Ordering
