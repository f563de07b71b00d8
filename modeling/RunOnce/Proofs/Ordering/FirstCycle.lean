import RunOnce.Proofs.Ordering.Search

/-!
# Which cycle is reported

Names are visited in the order of the graph, so the cycle that is reported is met from the
first name that leads to any cycle. The names before that one are all finished by then, and
none of them leads to the cycle. What the search has not come to by then plays no part: names
that neither the first offender nor any name before it leads to may call whatever they like.
-/

namespace RunOnce.Ordering.CallGraph

open Relation

variable {graph : CallGraph}

/-! ## Visiting lists in a row -/

/-- A name on the path closes a cycle. -/
theorem explore_of_mem_path {path done rest : List String} {name : String}
    (onPath : name ∈ path) :
    explore graph path done (name :: rest) = .cycle (closeCycle path name) := by
  rw [explore, dif_pos onPath]

/-- The names of two lists are visited one list after the other, unless the first one closes
a cycle. -/
theorem explore_append (path done front back : List String) :
    explore graph path done (front ++ back) =
      match explore graph path done front with
      | .cycle names => .cycle names
      | .finished done => explore graph path done back := by
  induction front generalizing done with
  | nil =>
    rw [explore, List.nil_append]
  | cons name rest ih =>
    rw [List.cons_append]
    by_cases onPath : name ∈ path
    · rw [explore_of_mem_path onPath, explore_of_mem_path onPath]
    · by_cases finished : name ∈ done
      · rw [explore_of_mem_done onPath finished, explore_of_mem_done onPath finished, ih]
      · rw [explore_of_not_mem_done onPath finished, explore_of_not_mem_done onPath finished]
        cases explore graph (name :: path) done (graph.calleesOf name) with
        | cycle names => rfl
        | finished inner => exact ih (name :: inner)

/-! ## What a search comes to -/

/-- Whether a property is handed on from callers to callees. -/
def HandsOn (graph : CallGraph) (holds : String → Prop) : Prop :=
  ∀ caller callee, graph.Edge caller callee → holds caller → holds callee

theorem handsOn_reached (start : String) : graph.HandsOn (ReflTransGen graph.Edge start) :=
  fun _ _ calls reached => reached.tail calls

theorem handsOn_reached_from (starts : List String) :
    graph.HandsOn fun name => ∃ start ∈ starts, ReflTransGen graph.Edge start name := by
  rintro caller callee calls ⟨start, listed, reached⟩
  exact ⟨start, listed, reached.tail calls⟩

variable {holds : String → Prop}

/-- What holds of the names to visit, and of those that are being visited, holds of the names
of a cycle that is closed. -/
theorem forall_of_explore_eq_cycle (handsOn : graph.HandsOn holds)
    {path done names cycle : List String}
    (ended : explore graph path done names = .cycle cycle)
    (onPath : ∀ name ∈ path, holds name) (listed : ∀ name ∈ names, holds name) :
    ∀ name ∈ cycle, holds name := by
  fun_induction explore graph path done names with
  | case1 => cases ended
  | case2 path done name rest onPathHere =>
    cases ended
    have here := onPath name onPathHere
    intro other among
    rcases List.mem_cons.mp among with rfl | among
    · exact here
    · rcases List.mem_append.mp among with near | last
      · exact onPath other ((List.takeWhile_sublist _).subset (List.mem_reverse.mp near))
      · rwa [List.mem_singleton.mp last]
  | case3 path done name rest _ _ ih => exact ih ended onPath (List.forall_mem_cons.mp listed).2
  | case4 path done name rest _ _ _ ih => exact ih ended onPath (List.forall_mem_cons.mp listed).2
  | case5 path done name rest _ _ callees known _ names closed ih =>
    cases ended
    have here := (List.forall_mem_cons.mp listed).1
    exact ih closed (List.forall_mem_cons.mpr ⟨here, onPath⟩) fun callee called =>
      handsOn name callee ⟨callees, known, called⟩ here
  | case6 path done name rest _ _ _ _ _ _ _ _ ihRest =>
    exact ihRest ended onPath (List.forall_mem_cons.mp listed).2

/-- Two graphs are searched alike if the names that the search comes to have the same callees
in both. -/
theorem explore_congr (handsOn : graph.HandsOn holds) {other : CallGraph}
    (alike : ∀ name, holds name → other.calleesOf name = graph.calleesOf name)
    (path done names : List String) (listed : ∀ name ∈ names, holds name) :
    explore other path done names = explore graph path done names := by
  fun_induction explore graph path done names with
  | case1 path done => rw [explore]
  | case2 path done name rest onPath => rw [explore_of_mem_path onPath]
  | case3 path done name rest fresh finished ih =>
    rw [explore_of_mem_done fresh finished, ih (List.forall_mem_cons.mp listed).2]
  | case4 path done name rest fresh unfinished unknown ih =>
    obtain ⟨here, later⟩ := List.forall_mem_cons.mp listed
    have none : other.calleesOf name = [] := by
      rw [alike name here, calleesOf, unknown, Option.getD_none]
    rw [explore_of_not_mem_done fresh unfinished, none, explore]
    exact ih later
  | case5 path done name rest fresh unfinished callees known _ names closed ih =>
    have here := (List.forall_mem_cons.mp listed).1
    have some : other.calleesOf name = callees := by
      rw [alike name here, calleesOf, known, Option.getD_some]
    have inner := ih fun callee called => handsOn name callee ⟨callees, known, called⟩ here
    rw [explore_of_not_mem_done fresh unfinished, some, inner, closed]
  | case6 path done name rest fresh unfinished callees known _ innerDone finished ihInner ihRest =>
    obtain ⟨here, later⟩ := List.forall_mem_cons.mp listed
    have some : other.calleesOf name = callees := by
      rw [alike name here, calleesOf, known, Option.getD_some]
    have inner := ihInner fun callee called => handsOn name callee ⟨callees, known, called⟩ here
    rw [explore_of_not_mem_done fresh unfinished, some, inner, finished]
    exact ihRest later

/-! ## The first offender -/

/-- Whether a name leads to a cycle, or is on one. -/
def ReachesCycle (graph : CallGraph) (name : String) : Prop :=
  ∃ other, ReflTransGen graph.Edge name other ∧ TransGen graph.Edge other other

/-- A name of a graph that leads to a cycle, with the names ahead of it, none of which
does. -/
structure FirstOffender (graph : CallGraph) (earlier : List String) (root : String) : Prop where
  listed : ∃ later, graph.keys = earlier ++ root :: later
  offends : graph.ReachesCycle root
  first : ∀ name ∈ earlier, ¬ graph.ReachesCycle name

/-- All names of a cycle lead back to themselves. -/
theorem IsCycle.transGen_self_of_mem {cycle : List String} (isCycle : graph.IsCycle cycle)
    {name : String} (listed : name ∈ cycle) : TransGen graph.Edge name name := by
  obtain ⟨⟨first, middle, rfl, _⟩, calls⟩ := isCycle
  have linked : (first :: (middle ++ [first])).Pairwise (TransGen graph.Edge) :=
    (calls.imp fun _ _ => TransGen.single).pairwise
  obtain ⟨fromFirst, rest⟩ := List.pairwise_cons.mp linked
  obtain ⟨_, _, toFirst⟩ := List.pairwise_append.mp rest
  have loop : TransGen graph.Edge first first := fromFirst first (by simp)
  rcases List.mem_cons.mp listed with rfl | among
  · exact loop
  · rcases List.mem_append.mp among with inside | last
    · exact (toFirst name inside first List.mem_cons_self).trans (fromFirst name among)
    · rwa [List.mem_singleton.mp last]

/-- A graph with a cycle has a first offender. -/
theorem exists_firstOffender {name : String} (loop : TransGen graph.Edge name name) :
    ∃ earlier root, graph.FirstOffender earlier root := by
  classical
  obtain ⟨_, ⟨callees, found, _⟩, _⟩ := TransGen.head'_iff.mp loop
  have offends : ∃ key ∈ graph.keys, graph.ReachesCycle key :=
    ⟨name, mem_keys_of_get? found, name, .refl, loop⟩
  have some : (graph.keys.find? fun key => decide (graph.ReachesCycle key)).isSome = true := by
    simpa using offends
  obtain ⟨root, found⟩ := Option.isSome_iff_exists.mp some
  obtain ⟨offends, earlier, later, listed, first⟩ := List.find?_eq_some_iff_append.mp found
  exact ⟨earlier, root, ⟨later, listed⟩, by simpa using offends, by simpa using first⟩

namespace FirstOffender

variable {earlier : List String} {root : String}

/-- The names ahead of the first offender are visited without closing a cycle. -/
theorem explore_earlier (offender : graph.FirstOffender earlier root) :
    ∃ done, explore graph [] [] earlier = .finished done := by
  cases ended : explore graph [] [] earlier with
  | finished done => exact ⟨done, rfl⟩
  | cycle cycle =>
    have isCycle : graph.IsCycle cycle :=
      isCycle_of_explore ended .nil List.nodup_nil (by simp)
    obtain ⟨name, middle, rfl, _⟩ := isCycle.closed
    have loop := isCycle.transGen_self_of_mem List.mem_cons_self
    obtain ⟨key, listed, reached⟩ :=
      forall_of_explore_eq_cycle (handsOn_reached_from earlier) ended (List.forall_mem_nil _)
        (fun key listed => ⟨key, listed, .refl⟩) name List.mem_cons_self
    exact absurd ⟨name, reached, loop⟩ (offender.first key listed)

/-- A cycle is closed when the first offender is visited, whatever is left to visit. -/
theorem explore_root (offender : graph.FirstOffender earlier root) :
    ∃ done cycle, explore graph [] done [root] = .cycle cycle ∧
      ∀ later, explore graph [] [] (earlier ++ root :: later) = .cycle cycle := by
  obtain ⟨done, finished⟩ := offender.explore_earlier
  have visited : ∀ later, explore graph [] [] (earlier ++ root :: later) =
      explore graph [] done (root :: later) := by
    intro later
    rw [explore_append, finished]
  cases ended : explore graph [] done [root] with
  | cycle cycle =>
    refine ⟨done, cycle, ended, fun later => ?_⟩
    rw [visited, ← List.singleton_append, explore_append, ended]
  | finished result =>
    -- Names that are finished lead to no cycle.
    rw [← visited] at ended
    obtain ⟨settled, _, covered⟩ := explore_finished ended trivial
    obtain ⟨name, reached, loop⟩ := offender.offends
    have rootListed : root ∈ result := covered (by simp)
    exact absurd loop (settled.not_transGen_self (settled.mem_of_reflTransGen rootListed reached))

end FirstOffender

/-! ## The cycle that is met first -/

/-- A name without an entry has no callees. -/
theorem calleesOf_of_not_mem_keys {name : String} (unknown : name ∉ graph.keys) :
    graph.calleesOf name = [] := by
  unfold calleesOf
  cases found : graph.get? name with
  | none => rfl
  | some callees => exact absurd (mem_keys_of_get? found) unknown

/-- When a cycle is reported, some name of the graph is the first one that leads to a cycle.
That name leads to all names of the reported cycle, and no name ahead of it leads to any of
them. The result stays the same when other callees are given to names that neither that name
nor any name ahead of it leads to. -/
theorem cycle_met_from_first_offender {cycle : List String}
    (found : graph.findCycle? = some cycle) :
    (∃ earlier root, graph.FirstOffender earlier root) ∧
    ∀ earlier root, graph.FirstOffender earlier root →
      (∀ name ∈ cycle, ReflTransGen graph.Edge root name) ∧
      (∀ key ∈ earlier, ∀ name ∈ cycle, ¬ ReflTransGen graph.Edge key name) ∧
      ∀ other : CallGraph, other.keys = graph.keys →
        (∀ key ∈ graph.keys,
          (∃ start ∈ earlier ++ [root], ReflTransGen graph.Edge start key) →
          other.get? key = graph.get? key) →
        other.findCycle? = some cycle := by
  have isCycle := isCycle_of_findCycle? found
  refine ⟨?_, fun earlier root offender => ?_⟩
  · obtain ⟨name, loop⟩ := isCycle.transGen_self
    exact exists_firstOffender loop
  · obtain ⟨later, listed⟩ := offender.listed
    obtain ⟨done, closed, fromRoot, whole⟩ := offender.explore_root
    obtain rfl : closed = cycle := by
      rw [findCycle?_eq, listed, whole] at found
      exact Option.some.inj found
    refine ⟨?_, fun key ahead name among reached => ?_, fun other sameKeys sameCallees => ?_⟩
    · exact forall_of_explore_eq_cycle (handsOn_reached root) fromRoot (List.forall_mem_nil _)
        (List.forall_mem_singleton.mpr .refl)
    · exact offender.first key ahead ⟨name, reached, isCycle.transGen_self_of_mem among⟩
    · have alike : ∀ name, (∃ start ∈ earlier ++ [root], ReflTransGen graph.Edge start name) →
          other.calleesOf name = graph.calleesOf name := by
        intro name reached
        by_cases known : name ∈ graph.keys
        · rw [calleesOf, calleesOf, sameCallees name known reached]
        · rw [calleesOf_of_not_mem_keys known, calleesOf_of_not_mem_keys (sameKeys ▸ known)]
      have first : explore other [] [] (earlier ++ [root]) = .cycle closed := by
        rw [explore_congr (handsOn_reached_from _) alike _ _ _
          fun name among => ⟨name, among, .refl⟩]
        exact whole []
      rw [findCycle?_eq, sameKeys, listed, ← List.singleton_append, ← List.append_assoc,
        explore_append, first]
      rfl

/-- A graph whose first name leads to no cycle, and whose last one, which is a cycle of its
own, none of the others leads to. -/
def lateGraph : CallGraph :=
  [("Clean", ["Log", "Log"]), ("Build", ["Clean", "Compile"]), ("Compile", ["Build"]),
    ("Test", ["Test"])]

theorem edge_lateGraph {caller callee : String} (calls : lateGraph.Edge caller callee) :
    (caller = "Clean" ∧ callee = "Log") ∨ (caller = "Build" ∧ callee ∈ ["Clean", "Compile"]) ∨
      (caller = "Compile" ∧ callee = "Build") ∨ (caller = "Test" ∧ callee = "Test") := by
  obtain ⟨callees, found, called⟩ := calls
  have entry := (Assoc.get?_eq_some_iff_mem (by decide)).mp found
  simp only [lateGraph, List.mem_cons, List.not_mem_nil, or_false, Prod.mk.injEq] at entry
  obtain ⟨rfl, rfl⟩ | ⟨rfl, rfl⟩ | ⟨rfl, rfl⟩ | ⟨rfl, rfl⟩ := entry <;> simp_all

/-- The cycle is met from the second name, and the last name may call other names. -/
theorem lateGraph_cycle_met_from_build :
    lateGraph.findCycle? = some ["Build", "Compile", "Build"] ∧
      lateGraph.FirstOffender ["Clean"] "Build" ∧
      CallGraph.findCycle? [("Clean", ["Log", "Log"]), ("Build", ["Clean", "Compile"]),
        ("Compile", ["Build"]), ("Test", ["Clean", "Build"])] =
          some ["Build", "Compile", "Build"] := by
  have found : lateGraph.findCycle? = some ["Build", "Compile", "Build"] := by
    obtain ⟨_, ends⟩ : lateGraph.Leads lateGraph.start
        (.ended (explore lateGraph [] [] lateGraph.keys).cycle?) := leads_roots lateGraph.keys []
    have closed : lateGraph.run 10 lateGraph.start =
        .ended (some ["Build", "Compile", "Build"]) := by decide +kernel
    rw [findCycle?_eq]
    exact ended_unique ends closed
  have offender : lateGraph.FirstOffender ["Clean"] "Build" := by
    have there : lateGraph.Edge "Build" "Compile" := ⟨_, rfl, by simp⟩
    have back : lateGraph.Edge "Compile" "Build" := ⟨_, rfl, by simp⟩
    have loop : TransGen lateGraph.Edge "Build" "Build" := .tail (.single there) back
    have settled : Settled lateGraph.Edge ["Clean", "Log"] := by
      refine ⟨fun callee leads => ?_, fun callee leads => ?_, trivial⟩
      · simpa using edge_lateGraph leads
      · simpa using edge_lateGraph leads
    refine ⟨⟨_, rfl⟩, ⟨"Build", .refl, loop⟩, List.forall_mem_singleton.mpr ?_⟩
    rintro ⟨name, reached, loop⟩
    exact settled.not_transGen_self (settled.mem_of_reflTransGen List.mem_cons_self reached) loop
  refine ⟨found, offender, ?_⟩
  refine ((cycle_met_from_first_offender found).2 _ _ offender).2.2 _ rfl fun key listed => ?_
  rintro ⟨start, among, reached⟩
  -- Only the last name has other callees than before, and only itself leads to it.
  have apart : key ≠ "Test" := by
    induction reached with
    | refl =>
      rintro rfl
      simp at among
    | tail _ leads ih =>
      rintro rfl
      have caller := edge_lateGraph leads
      simp at caller
      exact ih (by simp [caller, lateGraph, Assoc.keys]) caller
  simp only [lateGraph, Assoc.keys, List.map_cons, List.map_nil, List.mem_cons, List.not_mem_nil,
    or_false] at listed
  obtain rfl | rfl | rfl | rfl := listed
  · rfl
  · rfl
  · rfl
  · exact absurd rfl apart

end RunOnce.Ordering.CallGraph
