import Mathlib.Data.List.Chain
import Mathlib.Data.List.Nodup
import Mathlib.Logic.Relation
import RunOnce.Ordering.Cycle
import RunOnce.Proofs.Ordering.Requests

/-!
# The search for a cycle

A list of names is settled when the names that each of them leads to come
further back in the list. No name of a settled list lies on a cycle, and a
search that finishes leaves a settled list that holds every name it was given.
A search that reports a cycle has closed a path of the graph. Together: a cycle
is reported exactly when the graph has one.
-/

namespace RunOnce.Ordering

open Relation
open RunOnce.Expansion
open RunOnce.Journal
open RunOnce.Model

/-! ## Settled lists -/

/-- Each name leads only to names further back. -/
def Settled (next : String → String → Prop) : List String → Prop
  | [] => True
  | name :: older => (∀ other, next name other → other ∈ older) ∧ Settled next older

namespace Settled

variable {next : String → String → Prop} {names : List String}

/-- A settled list holds whatever its names lead to. -/
theorem mem_of_next (settled : Settled next names) {name other : String} (listed : name ∈ names)
    (leads : next name other) : other ∈ names := by
  induction names with
  | nil => exact absurd listed List.not_mem_nil
  | cons head older ih =>
    apply List.mem_cons_of_mem
    rcases List.mem_cons.mp listed with rfl | later
    · exact settled.1 other leads
    · exact ih settled.2 later

theorem mem_of_reflTransGen (settled : Settled next names) {name other : String}
    (listed : name ∈ names) (path : ReflTransGen next name other) : other ∈ names := by
  induction path with
  | refl => exact listed
  | tail _ leads ih => exact settled.mem_of_next ih leads

/-- No name of a settled list lies on a cycle. -/
theorem not_transGen_self (settled : Settled next names) {name : String} (listed : name ∈ names) :
    ¬TransGen next name name := by
  intro cycle
  induction names with
  | nil => exact absurd listed List.not_mem_nil
  | cons head older ih =>
    -- A cycle through the first name comes back to it among the older ones.
    rcases List.mem_cons.mp listed with rfl | later
    · obtain ⟨other, leads, back⟩ := TransGen.head'_iff.mp cycle
      exact ih settled.2 (settled.2.mem_of_reflTransGen (settled.1 other leads) back)
    · exact ih settled.2 later

end Settled

namespace CallGraph

/-! ## Searches that finish -/

/-- A search that finishes has settled the names it was given. -/
theorem explore_finished {graph : CallGraph} {path done names result : List String}
    (ended : explore graph path done names = .finished result)
    (settled : Settled graph.Edge done) :
    Settled graph.Edge result ∧ done ⊆ result ∧ names ⊆ result := by
  fun_induction explore graph path done names generalizing result with
  | case1 path done =>
    cases ended
    exact ⟨settled, List.Subset.refl _, List.nil_subset _⟩
  | case2 => cases ended
  | case3 path done name rest _ finished ih =>
    obtain ⟨resultSettled, kept, covered⟩ := ih ended settled
    exact ⟨resultSettled, kept, List.cons_subset.mpr ⟨kept finished, covered⟩⟩
  | case4 path done name rest _ _ found ih =>
    have nameSettled : Settled graph.Edge (name :: done) := by
      refine ⟨?_, settled⟩
      rintro other ⟨callees, has, _⟩
      rw [found] at has
      cases has
    obtain ⟨resultSettled, kept, covered⟩ := ih ended nameSettled
    obtain ⟨nameKept, doneKept⟩ := List.cons_subset.mp kept
    exact ⟨resultSettled, doneKept, List.cons_subset.mpr ⟨nameKept, covered⟩⟩
  | case5 => cases ended
  | case6 path done name rest _ _ callees found _ inner explored ihInner ihRest =>
    obtain ⟨innerSettled, doneInner, calleesInner⟩ := ihInner explored settled
    have nameSettled : Settled graph.Edge (name :: inner) := by
      refine ⟨?_, innerSettled⟩
      rintro other ⟨others, has, called⟩
      rw [found] at has
      cases has
      exact calleesInner called
    obtain ⟨resultSettled, kept, covered⟩ := ihRest ended nameSettled
    obtain ⟨nameKept, innerKept⟩ := List.cons_subset.mp kept
    exact ⟨resultSettled, List.Subset.trans doneInner innerKept,
      List.cons_subset.mpr ⟨nameKept, covered⟩⟩

/-! ## Searches that report a cycle -/

/-- A path of a graph that comes back to its first name, and to no other. -/
structure IsCycle (graph : CallGraph) (cycle : List String) : Prop where
  closed : ∃ name middle, cycle = name :: (middle ++ [name]) ∧ (name :: middle).Nodup
  calls : cycle.IsChain graph.Edge

theorem IsCycle.transGen_self {graph : CallGraph} {cycle : List String}
    (isCycle : graph.IsCycle cycle) : ∃ name, TransGen graph.Edge name name := by
  obtain ⟨⟨name, middle, rfl, _⟩, calls⟩ := isCycle
  have linked : (name :: (middle ++ [name])).Pairwise (TransGen graph.Edge) :=
    (calls.imp fun _ _ => TransGen.single).pairwise
  exact ⟨name, List.rel_of_pairwise_cons linked (by simp)⟩

/-- A path that is called back to one of its names closes a cycle. -/
theorem isCycle_closeCycle {graph : CallGraph} {path : List String} {name : String}
    (chain : path.IsChain fun later earlier => graph.Edge earlier later) (distinct : path.Nodup)
    (called : ∀ caller ∈ path.head?, graph.Edge caller name) (onPath : name ∈ path) :
    graph.IsCycle (closeCycle path name) := by
  obtain ⟨near, far, rfl⟩ := List.append_of_mem onPath
  have apart : name ∉ near := by
    intro listed
    exact (List.nodup_append.mp distinct).2.2 name listed name List.mem_cons_self rfl
  have cut : (near ++ name :: far).takeWhile (· ≠ name) = near := by
    rw [List.takeWhile_append_of_pos fun other listed =>
      decide_eq_true (ne_of_mem_of_not_mem listed apart)]
    simp
  rw [closeCycle, cut]
  refine ⟨⟨name, near.reverse, rfl, ?_⟩, ?_⟩
  · have nearDistinct := (List.nodup_append.mp distinct).1
    simpa [apart] using nearDistinct
  · -- Read backwards, the cycle is the near part of the path with the name put in front.
    have backwards : (name :: (near ++ [name])).IsChain
        fun later earlier => graph.Edge earlier later := by
      refine List.isChain_cons.mpr ⟨fun caller nearest => called caller ?_, ?_⟩
      · cases near <;> simpa using nearest
      · exact (List.isChain_split.mp chain).1
    have forwards := List.isChain_reverse.mpr backwards
    simpa using forwards

/-- A search reports only cycles. -/
theorem isCycle_of_explore {graph : CallGraph} {path done names cycle : List String}
    (ended : explore graph path done names = .cycle cycle)
    (chain : path.IsChain fun later earlier => graph.Edge earlier later) (distinct : path.Nodup)
    (called : ∀ caller ∈ path.head?, ∀ name ∈ names, graph.Edge caller name) :
    graph.IsCycle cycle := by
  fun_induction explore graph path done names with
  | case1 => cases ended
  | case2 path done name rest onPath =>
    cases ended
    exact isCycle_closeCycle chain distinct
      (fun caller nearest => called caller nearest name List.mem_cons_self) onPath
  | case3 path done name rest _ _ ih =>
    exact ih ended chain distinct fun caller nearest other listed =>
      called caller nearest other (List.mem_cons_of_mem name listed)
  | case4 path done name rest _ _ _ ih =>
    exact ih ended chain distinct fun caller nearest other listed =>
      called caller nearest other (List.mem_cons_of_mem name listed)
  | case5 path done name rest fresh _ callees found _ names explored ih =>
    cases ended
    refine ih explored ?_ (List.nodup_cons.mpr ⟨fresh, distinct⟩) ?_
    · exact List.isChain_cons.mpr
        ⟨fun caller nearest => called caller nearest name List.mem_cons_self, chain⟩
    · intro caller nearest other listed
      cases nearest
      exact ⟨callees, found, listed⟩
  | case6 path done name rest _ _ callees _ _ inner _ _ ihRest =>
    exact ihRest ended chain distinct fun caller nearest other listed =>
      called caller nearest other (List.mem_cons_of_mem name listed)

/-! ## The first cycle of a graph -/

theorem isCycle_of_findCycle? {graph : CallGraph} {cycle : List String}
    (found : graph.findCycle? = some cycle) : graph.IsCycle cycle := by
  unfold findCycle? at found
  split at found
  · rename_i ended
    cases found
    exact isCycle_of_explore ended .nil List.nodup_nil (by simp)
  · cases found

/-- No cycle is reported exactly when the graph has none. -/
theorem findCycle?_eq_none_iff (graph : CallGraph) :
    graph.findCycle? = none ↔ ∀ name, ¬TransGen graph.Edge name name := by
  constructor
  · intro none name cycle
    unfold findCycle? at none
    split at none
    · cases none
    · rename_i finished ended
      obtain ⟨settled, _, covered⟩ := explore_finished ended trivial
      obtain ⟨_, ⟨callees, found, _⟩, _⟩ := TransGen.head'_iff.mp cycle
      exact settled.not_transGen_self (covered (mem_keys_of_get? found)) cycle
  · intro acyclic
    cases found : graph.findCycle? with
    | none => rfl
    | some cycle =>
      obtain ⟨name, loop⟩ := (isCycle_of_findCycle? found).transGen_self
      exact absurd loop (acyclic name)

end CallGraph

/-! ## The check -/

variable {expander : Expander} {producers : Producers} {targets : List Target}

/-- The check passes when the call graph is drawn and has no cycle. -/
theorem checkAcyclic_eq_ok_iff :
    (checkAcyclic expander producers targets).outcome = .ok () ↔
      ∃ graph, (CallGraph.ofTargets expander producers targets).outcome = .ok graph ∧
        graph.findCycle? = none := by
  rw [checkAcyclic, Traced.outcome_bind_eq_ok_iff]
  refine exists_congr fun graph => and_congr_right fun _ => ?_
  cases graph.findCycle? with
  | none => simp
  | some cycle => simp [Traced.outcome_bind_eq_ok_iff]

/-- Once the call graph is drawn, the check fails exactly with its first cycle. -/
theorem checkAcyclic_eq_error_iff {graph : CallGraph} {failure : Failure}
    (drawn : (CallGraph.ofTargets expander producers targets).outcome = .ok graph) :
    (checkAcyclic expander producers targets).outcome = .error failure ↔
      ∃ cycle, graph.findCycle? = some cycle ∧ failure = .cyclic cycle := by
  rw [checkAcyclic, Traced.outcome_bind_of_ok drawn]
  cases graph.findCycle? with
  | none => simp
  | some cycle =>
    rw [Traced.outcome_bind_of_ok (Traced.outcome_report _), Failure.outcome_throw]
    simp [eq_comm]

end RunOnce.Ordering
