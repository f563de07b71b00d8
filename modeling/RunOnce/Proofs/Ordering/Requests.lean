import Mathlib.Data.List.Nodup
import RunOnce.Ordering.CallGraph
import RunOnce.Proofs.Assoc
import RunOnce.Proofs.Outcome

/-!
# What targets ask for

A target lists names in three fields: the ones it depends on, and the ones it
wants to run before or after. This file says which calls follow from these
lists, without the maps in which the compiler keeps them. The producers of a
name are the targets that list it, in order of declaration and as often as they
list it, and the call graph holds for each target the declared names among its
dependencies and its producers.
-/

namespace RunOnce.Ordering

open RunOnce.Expansion
open RunOnce.Journal
open RunOnce.Model
open RunOnce.Text

/-- The names that a target lists in a field. A list that does not expand names
nothing. -/
def listed (expander : Expander) (field : OrderingField) (target : Target) : List String :=
  if hasText (field.raw target) then
    match expander (field.raw target) with
    | .ok list => splitTargetList list
    | .error _ => []
  else []

/-- Whether the list that a target declares in a field is blank or expands. -/
def Expands (expander : Expander) (field : OrderingField) (target : Target) : Prop :=
  hasText (field.raw target) = true → ∃ list, expander (field.raw target) = .ok list

/-- The targets that list a name in a field, in order of declaration and as
often as they list it. -/
def requesters (expander : Expander) (field : OrderingField) (targets : List Target)
    (name : String) : List String :=
  targets.flatMap fun target =>
    List.replicate ((listed expander field target).count name) target.name

/-- The names that a target's procedure calls ahead of its body. -/
def earlyCalls (expander : Expander) (targets : List Target) (target : Target) : List String :=
  listed expander .dependsOn target ++ requesters expander .before targets target.name

/-- The names that a target's procedure calls after its body. -/
def lateCalls (expander : Expander) (targets : List Target) (target : Target) : List String :=
  requesters expander .after targets target.name

/-- The order that targets declare: the procedure of the first target calls the
second one, because it depends on it, or because the second one asked to run
before or after it. -/
inductive Calls (expander : Expander) (targets : List Target) : String → String → Prop
  | dependsOn {target other : Target} (caller : target ∈ targets) (callee : other ∈ targets)
      (lists : other.name ∈ listed expander .dependsOn target) :
      Calls expander targets target.name other.name
  | before {target other : Target} (caller : target ∈ targets) (callee : other ∈ targets)
      (lists : target.name ∈ listed expander .before other) :
      Calls expander targets target.name other.name
  | after {target other : Target} (caller : target ∈ targets) (callee : other ∈ targets)
      (lists : target.name ∈ listed expander .after other) :
      Calls expander targets target.name other.name

/-! ## Lists that expand -/

/-- A list that decides calls is read exactly when it expands. -/
theorem expandTargetList_eq_ok_iff {expander : Expander} {target : Target}
    (field : OrderingField) {names : List String} :
    (expandTargetList expander target.name field.label (field.raw target)).outcome = .ok names ↔
      Expands expander field target ∧ names = listed expander field target := by
  unfold expandTargetList Expands listed
  by_cases text : hasText (field.raw target) = true
  · cases expander (field.raw target) <;> simp [text, eq_comm]
  · simp [text, eq_comm]

theorem dependencies_eq_ok_iff {expander : Expander} {target : Target} {names : List String} :
    (dependencies expander target).outcome = .ok names ↔
      Expands expander .dependsOn target ∧ names = listed expander .dependsOn target :=
  expandTargetList_eq_ok_iff .dependsOn

/-- Only a list that does not expand makes its reading fail. -/
theorem dependencies_eq_error {expander : Expander} {target : Target} {failure : Failure}
    (failed : (dependencies expander target).outcome = .error failure) :
    ∃ field raw reason, failure = .controlFlow target.name field raw reason := by
  unfold dependencies expandTargetList at failed
  split at failed
  · split at failed
    · cases failed
    · cases failed
      exact ⟨_, _, _, rfl⟩
  · cases failed

theorem mem_requesters_iff {expander : Expander} {field : OrderingField} {targets : List Target}
    {name producer : String} :
    producer ∈ requesters expander field targets name ↔
      ∃ target ∈ targets, target.name = producer ∧ name ∈ listed expander field target := by
  simp only [requesters, List.mem_flatMap, List.mem_replicate, ← Nat.pos_iff_ne_zero,
    List.count_pos_iff]
  constructor
  · rintro ⟨target, declared, lists, same⟩
    exact ⟨target, declared, same.symm, lists⟩
  · rintro ⟨target, declared, same, lists⟩
    exact ⟨target, declared, lists, same.symm⟩

/-! ## Declared calls -/

/-- Targets with different names are told apart by them. -/
theorem target_eq_of_name_eq {targets : List Target} (distinct : (declaredNames targets).Nodup)
    {first second : Target} (firstDeclared : first ∈ targets) (secondDeclared : second ∈ targets)
    (same : first.name = second.name) : first = second :=
  List.inj_on_of_nodup_map distinct firstDeclared secondDeclared same

theorem Calls.caller_declared {expander : Expander} {targets : List Target}
    {caller callee : String} (calls : Calls expander targets caller callee) :
    ∃ target ∈ targets, target.name = caller := by
  cases calls with
  | dependsOn declared _ _ => exact ⟨_, declared, rfl⟩
  | before declared _ _ => exact ⟨_, declared, rfl⟩
  | after declared _ _ => exact ⟨_, declared, rfl⟩

/-- A target's procedure calls exactly the declared names among those that stand
before and after its body. -/
theorem calls_iff {expander : Expander} {targets : List Target}
    (distinct : (declaredNames targets).Nodup) {target : Target} (declared : target ∈ targets)
    {name : String} :
    Calls expander targets target.name name ↔
      name ∈ declaredNames targets ∧
        name ∈ earlyCalls expander targets target ++ lateCalls expander targets target := by
  simp only [earlyCalls, lateCalls, List.mem_append, mem_requesters_iff]
  constructor
  · intro calls
    generalize callerEq : target.name = caller at calls
    cases calls with
    | dependsOn callerDeclared calleeDeclared lists =>
      cases target_eq_of_name_eq distinct declared callerDeclared callerEq
      exact ⟨List.mem_map_of_mem calleeDeclared, .inl (.inl lists)⟩
    | before callerDeclared calleeDeclared lists =>
      exact ⟨List.mem_map_of_mem calleeDeclared,
        .inl (.inr ⟨_, calleeDeclared, rfl, callerEq ▸ lists⟩)⟩
    | after callerDeclared calleeDeclared lists =>
      exact ⟨List.mem_map_of_mem calleeDeclared,
        .inr ⟨_, calleeDeclared, rfl, callerEq ▸ lists⟩⟩
  · rintro ⟨known,
      (lists | ⟨other, otherDeclared, rfl, lists⟩) | ⟨other, otherDeclared, rfl, lists⟩⟩
    · obtain ⟨other, otherDeclared, rfl⟩ := List.mem_map.mp known
      exact .dependsOn declared otherDeclared lists
    · exact .before declared otherDeclared lists
    · exact .after declared otherDeclared lists

/-! ## Producers -/

namespace Producers

/-- Entering a producer adds it to each name, as often as the name is listed. -/
theorem getD_get?_enter (producer : String) (names : List String) (map : Assoc (List String))
    (name : String) :
    ((enter producer names map).get? name).getD [] =
      (map.get? name).getD [] ++ List.replicate (names.count name) producer := by
  induction names generalizing map with
  | nil => simp [enter]
  | cons head rest ih =>
    change ((enter producer rest _).get? name).getD [] = _
    rw [ih, Assoc.get?_update]
    by_cases same : head = name
    · subst head
      simp [List.replicate_succ]
    · simp [same]

/-- Entering one target succeeds exactly when both of its lists expand, and adds
the target to every name that it lists. -/
theorem addTarget_eq_ok {expander : Expander} {target : Target} {producers result : Producers}
    (added : (producers.addTarget expander target).outcome = .ok result) :
    (Expands expander .before target ∧ Expands expander .after target) ∧
      ∀ name,
        result.before name =
            producers.before name ++ requesters expander .before [target] name ∧
          result.after name =
            producers.after name ++ requesters expander .after [target] name := by
  unfold addTarget at added
  obtain ⟨before, readBefore, added⟩ := Traced.outcome_bind_eq_ok_iff.mp added
  obtain ⟨after, readAfter, added⟩ := Traced.outcome_bind_eq_ok_iff.mp added
  cases added
  obtain ⟨beforeExpands, rfl⟩ := (expandTargetList_eq_ok_iff .before).mp readBefore
  obtain ⟨afterExpands, rfl⟩ := (expandTargetList_eq_ok_iff .after).mp readAfter
  refine ⟨⟨beforeExpands, afterExpands⟩, fun name => ⟨?_, ?_⟩⟩
  · simp [Producers.before, getD_get?_enter, requesters]
  · simp [Producers.after, getD_get?_enter, requesters]

theorem exists_addTarget {expander : Expander} {target : Target}
    (beforeExpands : Expands expander .before target)
    (afterExpands : Expands expander .after target) (producers : Producers) :
    ∃ result, (producers.addTarget expander target).outcome = .ok result := by
  have readBefore := (expandTargetList_eq_ok_iff .before).mpr ⟨beforeExpands, rfl⟩
  have readAfter := (expandTargetList_eq_ok_iff .after).mpr ⟨afterExpands, rfl⟩
  unfold addTarget
  exact ⟨_, Traced.outcome_bind_eq_ok_iff.mpr ⟨_, readBefore,
    Traced.outcome_bind_eq_ok_iff.mpr ⟨_, readAfter, rfl⟩⟩⟩

theorem addTargets_eq_ok {expander : Expander} {targets : List Target}
    {producers result : Producers}
    (added : (producers.addTargets expander targets).outcome = .ok result) :
    (∀ target ∈ targets, Expands expander .before target ∧ Expands expander .after target) ∧
      ∀ name,
        result.before name = producers.before name ++ requesters expander .before targets name ∧
          result.after name = producers.after name ++ requesters expander .after targets name := by
  induction targets generalizing producers with
  | nil =>
    cases added
    simp [requesters]
  | cons target rest ih =>
    obtain ⟨middle, first, others⟩ := Traced.outcome_bind_eq_ok_iff.mp added
    obtain ⟨expands, entered⟩ := addTarget_eq_ok first
    obtain ⟨restExpand, restEntered⟩ := ih others
    refine ⟨List.forall_mem_cons.mpr ⟨expands, restExpand⟩, fun name => ⟨?_, ?_⟩⟩
    · rw [(restEntered name).1, (entered name).1]
      simp [requesters]
    · rw [(restEntered name).2, (entered name).2]
      simp [requesters]

theorem exists_addTargets {expander : Expander} {targets : List Target}
    (expand : ∀ target ∈ targets, Expands expander .before target ∧ Expands expander .after target)
    (producers : Producers) :
    ∃ result, (producers.addTargets expander targets).outcome = .ok result := by
  induction targets generalizing producers with
  | nil => exact ⟨producers, rfl⟩
  | cons target rest ih =>
    obtain ⟨expands, restExpand⟩ := List.forall_mem_cons.mp expand
    obtain ⟨middle, first⟩ := exists_addTarget expands.1 expands.2 producers
    obtain ⟨result, others⟩ := ih restExpand middle
    exact ⟨result, Traced.outcome_bind_eq_ok_iff.mpr ⟨middle, first, others⟩⟩

/-- The producers of a name are exactly the targets that list it. -/
theorem ofTargets_eq_ok {expander : Expander} {targets : List Target} {producers : Producers}
    (built : (ofTargets expander targets).outcome = .ok producers) :
    (∀ target ∈ targets, Expands expander .before target ∧ Expands expander .after target) ∧
      ∀ name,
        producers.before name = requesters expander .before targets name ∧
          producers.after name = requesters expander .after targets name := by
  obtain ⟨result, added, reported⟩ := Traced.outcome_bind_eq_ok_iff.mp built
  cases reported
  obtain ⟨expand, entered⟩ := addTargets_eq_ok added
  exact ⟨expand, entered⟩

/-- The producers are found when all lists of targets to run before and after
expand. -/
theorem exists_ofTargets {expander : Expander} {targets : List Target}
    (expand : ∀ target ∈ targets,
      Expands expander .before target ∧ Expands expander .after target) :
    ∃ producers, (ofTargets expander targets).outcome = .ok producers := by
  obtain ⟨producers, added⟩ := exists_addTargets expand {}
  exact ⟨producers, Traced.outcome_bind_eq_ok_iff.mpr ⟨producers, added, rfl⟩⟩

end Producers

/-! ## Call graphs -/

namespace CallGraph

/-- The declared names that a target's procedure calls. -/
def declaredCalls (expander : Expander) (targets : List Target) (target : Target) : List String :=
  (earlyCalls expander targets target ++ lateCalls expander targets target).filter
    (· ∈ declaredNames targets)

/-- The call graph that targets declare. -/
def declared (expander : Expander) (targets : List Target) : CallGraph :=
  targets.map fun target => (target.name, declaredCalls expander targets target)

theorem callees_eq_ok_iff {expander : Expander} {producers : Producers} {target : Target}
    {names : List String} :
    (callees expander producers target).outcome = .ok names ↔
      Expands expander .dependsOn target ∧
        names = listed expander .dependsOn target ++ producers.before target.name ++
          producers.after target.name := by
  unfold callees
  rw [Traced.outcome_bind_eq_ok_iff]
  constructor
  · rintro ⟨depends, read, result⟩
    cases result
    obtain ⟨expands, rfl⟩ := dependencies_eq_ok_iff.mp read
    exact ⟨expands, rfl⟩
  · rintro ⟨expands, rfl⟩
    exact ⟨_, dependencies_eq_ok_iff.mpr ⟨expands, rfl⟩, rfl⟩

/-- Entering targets with new names adds one entry for each of them. -/
theorem addTargets_eq_ok_iff {expander : Expander} {producers : Producers}
    {known : List String} {targets : List Target} {graph result : CallGraph}
    (distinct : (graph.keys ++ declaredNames targets).Nodup) :
    (addTargets expander producers known graph targets).outcome = .ok result ↔
      (∀ target ∈ targets, Expands expander .dependsOn target) ∧
        result = graph ++ targets.map fun target =>
          (target.name, (listed expander .dependsOn target ++ producers.before target.name ++
            producers.after target.name).filter (· ∈ known)) := by
  induction targets generalizing graph with
  | nil => simp [addTargets, eq_comm]
  | cons target rest ih =>
    have fresh : target.name ∉ graph.keys := by
      intro old
      exact (List.nodup_append.mp distinct).2.2 _ old _ List.mem_cons_self rfl
    have distinctRest : ∀ callees,
        ((graph ++ [(target.name, callees)] : CallGraph).keys ++ declaredNames rest).Nodup := by
      intro callees
      simpa [Assoc.keys, declaredNames] using distinct
    rw [addTargets, Traced.outcome_bind_eq_ok_iff]
    constructor
    · rintro ⟨names, called, others⟩
      obtain ⟨expands, rfl⟩ := callees_eq_ok_iff.mp called
      rw [Assoc.set_of_not_mem_keys fresh, ih (distinctRest _)] at others
      obtain ⟨restExpand, rfl⟩ := others
      exact ⟨List.forall_mem_cons.mpr ⟨expands, restExpand⟩, by simp⟩
    · rintro ⟨expand, rfl⟩
      obtain ⟨expands, restExpand⟩ := List.forall_mem_cons.mp expand
      refine ⟨_, callees_eq_ok_iff.mpr ⟨expands, rfl⟩, ?_⟩
      rw [Assoc.set_of_not_mem_keys fresh, ih (distinctRest _)]
      exact ⟨restExpand, by simp⟩

/-- The call graph of targets with different names holds the declared calls of
each of them. -/
theorem ofTargets_eq_ok_iff {expander : Expander} {producers : Producers}
    {targets : List Target} {graph : CallGraph} (distinct : (declaredNames targets).Nodup)
    (built : (Producers.ofTargets expander targets).outcome = .ok producers) :
    (ofTargets expander producers targets).outcome = .ok graph ↔
      (∀ target ∈ targets, Expands expander .dependsOn target) ∧
        graph = declared expander targets := by
  obtain ⟨_, entered⟩ := Producers.ofTargets_eq_ok built
  rw [ofTargets, addTargets_eq_ok_iff (by simpa [Assoc.keys] using distinct)]
  simp [declared, declaredCalls, earlyCalls, lateCalls, entered]

/-- The call graph is drawn when all lists of dependencies expand. -/
theorem exists_ofTargets {expander : Expander} {producers : Producers} {targets : List Target}
    (distinct : (declaredNames targets).Nodup)
    (built : (Producers.ofTargets expander targets).outcome = .ok producers)
    (expand : ∀ target ∈ targets, Expands expander .dependsOn target) :
    ∃ graph, (ofTargets expander producers targets).outcome = .ok graph :=
  ⟨_, (ofTargets_eq_ok_iff distinct built).mpr ⟨expand, rfl⟩⟩

/-- Whether a graph has a call from one name to another. -/
def Edge (graph : CallGraph) (caller callee : String) : Prop :=
  ∃ callees, graph.get? caller = some callees ∧ callee ∈ callees

/-- The edges of the declared call graph are the calls that targets declare. -/
theorem edge_declared {expander : Expander} {targets : List Target}
    (distinct : (declaredNames targets).Nodup) :
    (declared expander targets).Edge = Calls expander targets := by
  funext caller callee
  apply propext
  have distinctKeys : (Assoc.keys (declared expander targets)).Nodup := by
    simpa [declared, Assoc.keys, declaredNames, Function.comp_def] using distinct
  simp only [Edge, Assoc.get?_eq_some_iff_mem distinctKeys]
  simp only [declared, List.mem_map]
  constructor
  · rintro ⟨_, ⟨target, declared, same⟩, called⟩
    cases same
    simp only [declaredCalls, List.mem_filter, decide_eq_true_eq] at called
    exact (calls_iff distinct declared).mpr called.symm
  · intro calls
    obtain ⟨target, declared, rfl⟩ := calls.caller_declared
    refine ⟨_, ⟨target, declared, rfl⟩, ?_⟩
    simp only [declaredCalls, List.mem_filter, decide_eq_true_eq]
    exact ((calls_iff distinct declared).mp calls).symm

/-- The edges of the call graph are the calls that targets declare. -/
theorem edge_eq_calls {expander : Expander} {producers : Producers}
    {targets : List Target} {graph : CallGraph} (distinct : (declaredNames targets).Nodup)
    (built : (Producers.ofTargets expander targets).outcome = .ok producers)
    (drawn : (ofTargets expander producers targets).outcome = .ok graph) :
    graph.Edge = Calls expander targets := by
  obtain ⟨_, rfl⟩ := (ofTargets_eq_ok_iff distinct built).mp drawn
  exact edge_declared distinct

end CallGraph

end RunOnce.Ordering
