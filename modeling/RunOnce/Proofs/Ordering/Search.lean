import Mathlib.Data.Finset.Basic
import Mathlib.Data.Finset.Dedup
import RunOnce.Proofs.Ordering.Cycle

/-!
# The search with a stack of its own

The search for a cycle need not call itself. Step by step, it can keep a path of names,
the set of names on it, a stack with the callees that each of them has left, and the set of
names that are done. A step takes the next callee of the last name on the path: it closes a
cycle, is passed over, or is entered and joins the path. A name without callees left is
done and leaves the path.

Whatever the graph, such a search comes to an end, and its result is the one of the search
that calls itself. So it finds a cycle exactly if the graph has one.
-/

namespace RunOnce.Ordering.CallGraph

open Relation

/-! ## Steps of a search -/

/-- A state of a search. -/
structure Visit where
  /-- The names of the graph that were not taken as a root so far. -/
  roots : List String
  /-- The names that are being visited, from the root on. -/
  path : List String
  /-- The names on the path. -/
  onPath : Finset String
  /-- The callees that are left of each name on the path, those of the last one first. -/
  stack : List (List String)
  /-- The names whose callees have all been visited. -/
  done : Finset String
deriving DecidableEq

/-- How far a search has come. -/
inductive Progress
  | searching (visit : Visit)
  /-- The search is over, with the cycle that it has closed if there is one. -/
  | ended (cycle? : Option (List String))
  /-- A list on the stack is exhausted, and no name is on the path. -/
  | lost
deriving DecidableEq

/-- The callees of a name, none if it is no name of the graph. -/
def calleesOf (graph : CallGraph) (name : String) : List String :=
  (graph.get? name).getD []

/-- One step of a search. -/
def Visit.step (graph : CallGraph) (visit : Visit) : Progress :=
  match visit.stack with
  | [] =>
    match visit.roots with
    | [] => .ended none
    | root :: roots =>
      if root ∈ visit.done then .searching { visit with roots }
      else .searching
        { visit with roots, path := [root], onPath := {root}, stack := [graph.calleesOf root] }
  | [] :: below =>
    match visit.path.getLast? with
    | none => .lost
    | some name => .searching
        { visit with
          path := visit.path.dropLast
          onPath := visit.onPath.erase name
          stack := below
          done := insert name visit.done }
  | (name :: rest) :: below =>
    if name ∈ visit.onPath then .ended (some (visit.path.dropWhile (· ≠ name) ++ [name]))
    else if name ∈ visit.done then .searching { visit with stack := rest :: below }
    else .searching
        { visit with
          path := visit.path ++ [name]
          onPath := insert name visit.onPath
          stack := graph.calleesOf name :: rest :: below }

/-- So many steps of a search, or all of them if it is over sooner. -/
def run (graph : CallGraph) : Nat → Progress → Progress
  | 0, progress => progress
  | count + 1, .searching visit => graph.run count (visit.step graph)
  | _ + 1, .ended cycle? => .ended cycle?
  | _ + 1, .lost => .lost

/-- A search starts with all names of the graph as its roots. -/
def start (graph : CallGraph) : Progress :=
  .searching { roots := graph.keys, path := [], onPath := ∅, stack := [], done := ∅ }

/-- Whether a search comes from one state to another. -/
def Leads (graph : CallGraph) (before after : Progress) : Prop :=
  ∃ count, graph.run count before = after

variable {graph : CallGraph}

theorem run_ended (count : Nat) (cycle? : Option (List String)) :
    graph.run count (.ended cycle?) = .ended cycle? := by
  cases count <;> rfl

theorem run_add (first second : Nat) (progress : Progress) :
    graph.run (first + second) progress = graph.run second (graph.run first progress) := by
  induction first generalizing progress with
  | zero => rw [Nat.zero_add, run]
  | succ first ih =>
    rw [Nat.succ_add]
    cases progress with
    | searching visit => exact ih (visit.step graph)
    | ended cycle? => exact (run_ended second cycle?).symm
    | lost => cases second <;> rfl

/-- A search has one end, however many steps are made. -/
theorem ended_unique {first second : Nat} {progress : Progress}
    {firstCycle? secondCycle? : Option (List String)}
    (firstEnds : graph.run first progress = .ended firstCycle?)
    (secondEnds : graph.run second progress = .ended secondCycle?) :
    firstCycle? = secondCycle? := by
  have both : graph.run second (graph.run first progress) =
      graph.run first (graph.run second progress) := by
    rw [← run_add, ← run_add, Nat.add_comm]
  rw [firstEnds, secondEnds, run_ended, run_ended] at both
  exact Progress.ended.inj both

namespace Leads

theorem refl (progress : Progress) : graph.Leads progress progress :=
  ⟨0, rfl⟩

theorem trans {before between after : Progress} (first : graph.Leads before between)
    (second : graph.Leads between after) : graph.Leads before after := by
  obtain ⟨firstCount, rfl⟩ := first
  obtain ⟨secondCount, rfl⟩ := second
  exact ⟨firstCount + secondCount, run_add _ _ _⟩

/-- What a step leads to, and all that follows. -/
theorem step {visit : Visit} {next after : Progress} (steps : visit.step graph = next)
    (later : graph.Leads next after) : graph.Leads (.searching visit) after :=
  trans ⟨1, steps⟩ later

end Leads

/-! ## States in step -/

/-- The state in which everything is in step with a path, the nearest name first, and with
the names that are done. -/
def Visit.along (roots path : List String) (stack : List (List String)) (done : List String) :
    Visit where
  roots
  path := path.reverse
  onPath := path.toFinset
  stack
  done := done.toFinset

section Steps

variable {roots path done rest : List String} {below : List (List String)} {name : String}

/-- A callee on the path closes the cycle from there to the end of the path. -/
theorem step_close (distinct : path.Nodup) (onPath : name ∈ path) :
    (Visit.along roots path ((name :: rest) :: below) done).step graph =
      .ended (some (closeCycle path name)) := by
  have cut : path.reverse.dropWhile (· ≠ name) ++ [name] = closeCycle path name := by
    obtain ⟨near, far, rfl⟩ := List.append_of_mem onPath
    obtain ⟨_, farDistinct, apart⟩ := List.nodup_append.mp distinct
    have nearApart : ∀ other ∈ near, other ≠ name := fun other listed =>
      apart other listed name List.mem_cons_self
    have farApart : ∀ other ∈ far.reverse, other ≠ name := fun other listed =>
      ne_of_mem_of_not_mem (List.mem_reverse.mp listed) (List.nodup_cons.mp farDistinct).1
    have front : (near ++ name :: far).takeWhile (· ≠ name) = near := by
      rw [List.takeWhile_append_of_pos fun other listed =>
        decide_eq_true (nearApart other listed)]
      simp
    have back : (near ++ name :: far).reverse.dropWhile (· ≠ name) = name :: near.reverse := by
      rw [List.reverse_append, List.reverse_cons, List.append_assoc,
        List.dropWhile_append_of_pos fun other listed => decide_eq_true (farApart other listed)]
      simp
    rw [closeCycle, front, back]
    rfl
  have member : name ∈ path.toFinset := List.mem_toFinset.mpr onPath
  simp only [Visit.step, Visit.along, if_pos member, cut]

/-- A callee that is done is passed over. -/
theorem step_skip (fresh : name ∉ path) (finished : name ∈ done) :
    (Visit.along roots path ((name :: rest) :: below) done).step graph =
      .searching (.along roots path (rest :: below) done) := by
  simp [Visit.step, Visit.along, fresh, finished]

/-- Any other callee is entered. -/
theorem step_enter (fresh : name ∉ path) (unfinished : name ∉ done) :
    (Visit.along roots path ((name :: rest) :: below) done).step graph =
      .searching (.along roots (name :: path) (graph.calleesOf name :: rest :: below) done) := by
  simp [Visit.step, Visit.along, fresh, unfinished]

/-- The last name of the path is left when its callees are exhausted. -/
theorem step_leave (fresh : name ∉ path) :
    (Visit.along roots (name :: path) ([] :: below) done).step graph =
      .searching (.along roots path below (name :: done)) := by
  simp [Visit.step, Visit.along, fresh]

/-- A root that is done is passed over. -/
theorem step_skip_root (finished : name ∈ done) :
    (Visit.along (name :: roots) [] [] done).step graph =
      .searching (.along roots [] [] done) := by
  simp [Visit.step, Visit.along, finished]

/-- Any other root is entered. -/
theorem step_enter_root (unfinished : name ∉ done) :
    (Visit.along (name :: roots) [] [] done).step graph =
      .searching (.along roots [name] [graph.calleesOf name] done) := by
  simp [Visit.step, Visit.along, unfinished]

end Steps

/-! ## The search that calls itself -/

/-- A name that is done is passed over. -/
theorem explore_of_mem_done {path done rest : List String} {name : String}
    (fresh : name ∉ path) (finished : name ∈ done) :
    explore graph path done (name :: rest) = explore graph path done rest := by
  rw [explore, dif_neg fresh, if_pos finished]

/-- The callees of any other name come before the rest. -/
theorem explore_of_not_mem_done {path done rest : List String} {name : String}
    (fresh : name ∉ path) (unfinished : name ∉ done) :
    explore graph path done (name :: rest) =
      match explore graph (name :: path) done (graph.calleesOf name) with
      | .cycle names => .cycle names
      | .finished done => explore graph path (name :: done) rest := by
  rw [explore, dif_neg fresh, if_neg unfinished]
  split
  · rename_i unknown
    rw [calleesOf, unknown, Option.getD_none, explore]
  · rename_i callees known
    have some : graph.calleesOf name = callees := by rw [calleesOf, known, Option.getD_some]
    cases searched : graph.explore (name :: path) done callees <;> simp only [some, searched]

/-- What a search that calls itself comes to, as a state of a search with a stack: the
names to visit are exhausted, or a cycle was closed. -/
def Search.reached (roots path : List String) (below : List (List String)) : Search → Progress
  | .cycle names => .ended (some names)
  | .finished done => .searching (.along roots path ([] :: below) done)

/-- The steps that visit the list on top of the stack come to what the search that calls
itself comes to with this list. -/
theorem leads_explore (roots : List String) {path : List String} (distinct : path.Nodup)
    (done names : List String) (below : List (List String)) :
    graph.Leads (.searching (.along roots path (names :: below) done))
      ((explore graph path done names).reached roots path below) := by
  fun_induction explore graph path done names generalizing below with
  | case1 path done => exact .refl _
  | case2 path done name rest onPath =>
    exact .step (step_close distinct onPath) (.refl _)
  | case3 path done name rest fresh finished ih =>
    exact .step (step_skip fresh finished) (ih distinct below)
  | case4 path done name rest fresh unfinished unknown ih =>
    have none : graph.calleesOf name = [] := by rw [calleesOf, unknown, Option.getD_none]
    refine .step (step_enter fresh unfinished) ?_
    rw [none]
    exact .step (step_leave fresh) (ih distinct below)
  | case5 path done name rest fresh unfinished callees known _ names closed ih =>
    have some : graph.calleesOf name = callees := by rw [calleesOf, known, Option.getD_some]
    refine .step (step_enter fresh unfinished) ?_
    have inner := ih (List.nodup_cons.mpr ⟨fresh, distinct⟩) (rest :: below)
    rwa [closed, ← some] at inner
  | case6 path done name rest fresh unfinished callees known _ innerDone finished ihInner ihRest =>
    have some : graph.calleesOf name = callees := by rw [calleesOf, known, Option.getD_some]
    refine .step (step_enter fresh unfinished) ?_
    have inner := ihInner (List.nodup_cons.mpr ⟨fresh, distinct⟩) (rest :: below)
    rw [finished, ← some] at inner
    -- The name is left when its callees are exhausted, and the rest of the list follows.
    exact inner.trans (.step (step_leave fresh) (ihRest distinct below))

/-- The cycle that a search has closed. -/
def Search.cycle? : Search → Option (List String)
  | .cycle names => some names
  | .finished _ => none

/-- The steps that visit all roots end with what the search that calls itself finds. -/
theorem leads_roots (roots done : List String) :
    graph.Leads (.searching (.along roots [] [] done))
      (.ended (explore graph [] done roots).cycle?) := by
  induction roots generalizing done with
  | nil =>
    rw [explore]
    exact .step rfl (.refl _)
  | cons root roots ih =>
    have fresh : root ∉ [] := List.not_mem_nil
    by_cases finished : root ∈ done
    · rw [explore_of_mem_done fresh finished]
      exact .step (step_skip_root finished) (ih done)
    · rw [explore_of_not_mem_done fresh finished]
      refine .step (step_enter_root finished) ?_
      refine (leads_explore roots (List.nodup_singleton root) done _ []).trans ?_
      cases explore graph [root] done (graph.calleesOf root) with
      | cycle names => exact .refl _
      | finished innerDone => exact .step (step_leave fresh) (ih (root :: innerDone))

theorem findCycle?_eq (graph : CallGraph) :
    graph.findCycle? = (explore graph [] [] graph.keys).cycle? := by
  unfold findCycle?
  cases explore graph [] [] graph.keys <;> rfl

/-! ## Cycles found -/

/-- A cycle comes back to its first name, and to no other. -/
theorem IsCycle.shape {cycle : List String} (isCycle : graph.IsCycle cycle) :
    2 ≤ cycle.length ∧ cycle.head? = cycle.getLast? ∧ cycle.dropLast.Nodup := by
  obtain ⟨⟨name, middle, rfl, distinct⟩, _⟩ := isCycle
  refine ⟨?_, ?_, ?_⟩
  · simp
  · rw [← List.cons_append, List.getLast?_concat]
    rfl
  · rwa [← List.cons_append, List.dropLast_concat]

/-- The search comes to an end on every graph. It ends without a cycle exactly if no name
of the graph leads back to itself. A cycle that it ends with has at least two entries, the
last of which is the first one again and no other one comes twice, and each entry calls the
next one. -/
theorem search_ends_with_cycle_if_any (graph : CallGraph) :
    (∃ count, graph.run count graph.start = .ended graph.findCycle?) ∧
    (graph.findCycle? = none ↔ ∀ name, ¬ TransGen graph.Edge name name) ∧
    ∀ cycle, graph.findCycle? = some cycle →
      2 ≤ cycle.length ∧ cycle.head? = cycle.getLast? ∧ cycle.dropLast.Nodup ∧
        cycle.IsChain graph.Edge := by
  refine ⟨?_, findCycle?_eq_none_iff graph, ?_⟩
  · rw [findCycle?_eq]
    exact leads_roots graph.keys []
  · intro cycle found
    have isCycle := isCycle_of_findCycle? found
    obtain ⟨long, closed, distinct⟩ := isCycle.shape
    exact ⟨long, closed, distinct, isCycle.calls⟩

/-- A graph with a callee that comes twice, one that has no entry, and a name that calls
itself, besides a cycle that the search comes upon later than on its first root. -/
def windingGraph : CallGraph :=
  [("Clean", ["Log", "Log"]), ("Build", ["Clean", "Compile"]), ("Compile", ["Pack"]),
    ("Pack", ["Compile", "Pack"])]

/-- The search ends on this graph with a cycle of two names. -/
theorem windingGraph_search_ends :
    windingGraph.run 10 windingGraph.start = .ended (some ["Compile", "Pack", "Compile"]) ∧
      windingGraph.findCycle? = some ["Compile", "Pack", "Compile"] ∧
      ["Compile", "Pack", "Compile"].IsChain windingGraph.Edge := by
  obtain ⟨⟨_, ends⟩, _, cycles⟩ := search_ends_with_cycle_if_any windingGraph
  have closed : windingGraph.run 10 windingGraph.start =
      .ended (some ["Compile", "Pack", "Compile"]) := by decide +kernel
  have found := ended_unique ends closed
  exact ⟨closed, found, (cycles _ found).2.2.2⟩

end RunOnce.Ordering.CallGraph
