import RunOnce.Proofs.Ordering.Cycle

/-!
# What can go wrong with the order of targets

A text that decides which calls are made has to expand, unless it is blank. This
file names the failure of a text that does not, and lists the failures in the
order in which they are met: the producers ask each target in turn for the names
it wants to run before and after, the call graph asks each target in turn for its
dependencies, and a cycle is looked for when all of them are known.
-/

namespace RunOnce.Ordering

open Relation
open RunOnce.Expansion
open RunOnce.Journal
open RunOnce.Journal.Traced
open RunOnce.Model
open RunOnce.Text

/-! ## Texts that decide calls -/

/-- The failure of a text in a field of a target. There is none if the text is
blank or expands. -/
def textFailure? (expander : Expander) (target field raw : String) : Option Failure :=
  if hasText raw then
    match expander raw with
    | .ok _ => none
    | .error reason => some (.controlFlow target field raw reason.text)
  else none

/-- The failure names the target, the field and the text. -/
theorem textFailure?_eq_some_iff {expander : Expander} {target field raw : String}
    {failure : Failure} :
    textFailure? expander target field raw = some failure ↔
      hasText raw = true ∧ ∃ reason, expander raw = .error reason ∧
        failure = .controlFlow target field raw reason.text := by
  unfold textFailure?
  by_cases text : hasText raw = true
  · cases expander raw <;> simp [text, eq_comm]
  · simp [text]

theorem textFailure?_eq_none_iff {expander : Expander} {target field raw : String} :
    textFailure? expander target field raw = none ↔
      (hasText raw = true → ∃ value, expander raw = .ok value) := by
  unfold textFailure?
  by_cases text : hasText raw = true
  · cases expander raw <;> simp [text]
  · simp [text]

/-- The failure of the list that a target declares in a field. -/
def listFailure? (expander : Expander) (field : OrderingField) (target : Target) :
    Option Failure :=
  textFailure? expander target.name field.label (field.raw target)

theorem listFailure?_eq_none_iff {expander : Expander} {field : OrderingField} {target : Target} :
    listFailure? expander field target = none ↔ Expands expander field target :=
  textFailure?_eq_none_iff

/-- Reading a list fails with the failure of the list. -/
theorem failsInOrder_expandTargetList (expander : Expander) (field : OrderingField)
    (target : Target) :
    FailsInOrder (expandTargetList expander target.name field.label (field.raw target))
      (listFailure? expander field target).toList := by
  intro failure
  unfold expandTargetList listFailure? textFailure?
  by_cases text : hasText (field.raw target) = true
  · cases expander (field.raw target) <;> simp [text]
  · simp [text]

theorem failsInOrder_dependencies (expander : Expander) (target : Target) :
    FailsInOrder (dependencies expander target)
      (listFailure? expander .dependsOn target).toList :=
  failsInOrder_expandTargetList expander .dependsOn target

/-- The first failure of several targets is that of the first one that has any. -/
theorem head?_flatMap_toList {targets : List Target} {failure? : Target → Option Failure}
    {failure : Failure} :
    (targets.flatMap fun target => (failure? target).toList).head? = some failure ↔
      ∃ earlier target later, targets = earlier ++ target :: later ∧
        failure? target = some failure ∧ ∀ other ∈ earlier, failure? other = none := by
  rw [← List.findSome?_eq_some_iff, List.head?_flatMap]
  simp [Option.head?_toList]

/-! ## Producers -/

/-- The failures that are met when producers are entered. -/
def producerFailures (expander : Expander) (targets : List Target) : List Failure :=
  targets.flatMap fun target =>
    (listFailure? expander .before target).toList ++ (listFailure? expander .after target).toList

theorem producerFailures_eq_nil_iff {expander : Expander} {targets : List Target} :
    producerFailures expander targets = [] ↔
      ∀ target ∈ targets, Expands expander .before target ∧ Expands expander .after target := by
  simp [producerFailures, listFailure?_eq_none_iff]

namespace Producers

theorem failsInOrder_addTarget (expander : Expander) (producers : Producers) (target : Target) :
    FailsInOrder (producers.addTarget expander target)
      ((listFailure? expander .before target).toList ++
        (listFailure? expander .after target).toList) := by
  unfold addTarget
  apply (failsInOrder_expandTargetList expander .before target).bind
  intro before _
  exact (failsInOrder_expandTargetList expander .after target).bind_ok fun _ => ⟨_, rfl⟩

theorem failsInOrder_addTargets (expander : Expander) (producers : Producers)
    (targets : List Target) :
    FailsInOrder (producers.addTargets expander targets) (producerFailures expander targets) := by
  induction targets generalizing producers with
  | nil => exact failsInOrder_pure producers
  | cons target rest ih =>
    exact (failsInOrder_addTarget expander producers target).bind fun entered _ => ih entered

theorem failsInOrder_ofTargets (expander : Expander) (targets : List Target) :
    FailsInOrder (ofTargets expander targets) (producerFailures expander targets) :=
  (failsInOrder_addTargets expander {} targets).bind_ok fun producers => ⟨producers, rfl⟩

end Producers

/-! ## Call graphs -/

/-- The failures that are met when the call graph is drawn. -/
def dependencyFailures (expander : Expander) (targets : List Target) : List Failure :=
  targets.flatMap fun target => (listFailure? expander .dependsOn target).toList

theorem dependencyFailures_eq_nil_iff {expander : Expander} {targets : List Target} :
    dependencyFailures expander targets = [] ↔
      ∀ target ∈ targets, Expands expander .dependsOn target := by
  simp [dependencyFailures, listFailure?_eq_none_iff]

namespace CallGraph

theorem failsInOrder_addTargets (expander : Expander) (producers : Producers)
    (known : List String) (graph : CallGraph) (targets : List Target) :
    FailsInOrder (addTargets expander producers known graph targets)
      (dependencyFailures expander targets) := by
  induction targets generalizing graph with
  | nil => exact failsInOrder_pure graph
  | cons target rest ih =>
    have called : FailsInOrder (callees expander producers target)
        (listFailure? expander .dependsOn target).toList :=
      (failsInOrder_dependencies expander target).bind_ok fun _ => ⟨_, rfl⟩
    exact called.bind fun names _ => ih _

theorem failsInOrder_ofTargets (expander : Expander) (producers : Producers)
    (targets : List Target) :
    FailsInOrder (ofTargets expander producers targets) (dependencyFailures expander targets) :=
  failsInOrder_addTargets expander producers _ [] targets

end CallGraph

/-! ## Cycles -/

/-- The failure over the first cycle of the declared call graph, if it has one. -/
def cycleFailures (expander : Expander) (targets : List Target) : List Failure :=
  ((CallGraph.declared expander targets).findCycle?.map Failure.cyclic).toList

theorem cycleFailures_eq_nil_iff {expander : Expander} {targets : List Target}
    (distinct : (declaredNames targets).Nodup) :
    cycleFailures expander targets = [] ↔
      ∀ name, ¬TransGen (Calls expander targets) name name := by
  rw [cycleFailures, Option.toList_eq_nil_iff, Option.map_eq_none_iff,
    CallGraph.findCycle?_eq_none_iff, CallGraph.edge_declared distinct]

/-- The check meets the failures of dependencies first, and then a cycle. -/
theorem failsInOrder_checkAcyclic {expander : Expander} {producers : Producers}
    {targets : List Target} (distinct : (declaredNames targets).Nodup)
    (built : (Producers.ofTargets expander targets).outcome = .ok producers) :
    FailsInOrder (checkAcyclic expander producers targets)
      (dependencyFailures expander targets ++ cycleFailures expander targets) := by
  apply (CallGraph.failsInOrder_ofTargets expander producers targets).bind
  intro graph drawn
  obtain ⟨_, rfl⟩ := (CallGraph.ofTargets_eq_ok_iff distinct built).mp drawn
  intro failure
  unfold cycleFailures
  cases (CallGraph.declared expander targets).findCycle? with
  | none => simp
  | some cycle =>
    rw [outcome_bind_of_ok (outcome_report _), Failure.outcome_throw]
    simp

/-! ## Expanders that agree -/

/-- Whether two expanders agree on all lists that targets declare. -/
def AgreeOnLists (expander other : Expander) (targets : List Target) : Prop :=
  ∀ target ∈ targets, ∀ field : OrderingField,
    other (field.raw target) = expander (field.raw target)

theorem textFailure?_congr {expander other : Expander} {raw : String}
    (same : other raw = expander raw) (target field : String) :
    textFailure? other target field raw = textFailure? expander target field raw := by
  simp only [textFailure?, same]

namespace AgreeOnLists

variable {expander other : Expander} {targets : List Target}

theorem listFailure?_eq (agree : AgreeOnLists expander other targets) (field : OrderingField)
    {target : Target} (declared : target ∈ targets) :
    listFailure? other field target = listFailure? expander field target :=
  textFailure?_congr (agree target declared field) _ _

theorem listed_eq (agree : AgreeOnLists expander other targets) (field : OrderingField)
    {target : Target} (declared : target ∈ targets) :
    listed other field target = listed expander field target := by
  simp only [listed, agree target declared field]

theorem producerFailures_eq (agree : AgreeOnLists expander other targets) :
    producerFailures other targets = producerFailures expander targets := by
  apply List.flatMap_congr
  intro target declared
  rw [agree.listFailure?_eq .before declared, agree.listFailure?_eq .after declared]

theorem dependencyFailures_eq (agree : AgreeOnLists expander other targets) :
    dependencyFailures other targets = dependencyFailures expander targets := by
  apply List.flatMap_congr
  intro target declared
  rw [agree.listFailure?_eq .dependsOn declared]

theorem requesters_eq (agree : AgreeOnLists expander other targets) (field : OrderingField)
    (name : String) :
    requesters other field targets name = requesters expander field targets name := by
  apply List.flatMap_congr
  intro target declared
  rw [agree.listed_eq field declared]

theorem cycleFailures_eq (agree : AgreeOnLists expander other targets) :
    cycleFailures other targets = cycleFailures expander targets := by
  have same : CallGraph.declared other targets = CallGraph.declared expander targets := by
    apply List.map_congr_left
    intro target declared
    simp only [CallGraph.declaredCalls, earlyCalls, lateCalls, agree.requesters_eq,
      agree.listed_eq .dependsOn declared]
  rw [cycleFailures, same, cycleFailures]

end AgreeOnLists

end RunOnce.Ordering
