import RunOnce.Ordering.CallGraph

/-!
# Cycles

A generated program marks a target as run only when its procedure completes, so
a target that calls itself, directly or through others, would recurse without
end. The search walks the graph depth first, from every name in order, and
reports the first cycle it closes.
-/

namespace RunOnce.Ordering

open RunOnce.Expansion
open RunOnce.Journal
open RunOnce.Model

namespace CallGraph

/-- How many names of a list are not on a path. -/
def unvisited (names path : List String) : Nat :=
  (names.filter (· ∉ path)).length

theorem unvisited_of_mem {names path : List String} {name : String} (onPath : name ∈ path) :
    unvisited (name :: names) path = unvisited names path := by
  simp [unvisited, onPath]

theorem unvisited_of_not_mem {names path : List String} {name : String} (fresh : name ∉ path) :
    unvisited (name :: names) path = unvisited names path + 1 := by
  simp [unvisited, fresh]

/-- A longer path leaves no more names unvisited. -/
theorem unvisited_cons_le (names path : List String) (name : String) :
    unvisited names (name :: path) ≤ unvisited names path := by
  induction names with
  | nil => exact Nat.le_refl _
  | cons head rest ih =>
    by_cases onPath : head ∈ path
    · rw [unvisited_of_mem onPath, unvisited_of_mem (List.mem_cons_of_mem _ onPath)]
      exact ih
    · rw [unvisited_of_not_mem onPath]
      by_cases same : head = name
      · rw [unvisited_of_mem (by simp [same])]
        omega
      · rw [unvisited_of_not_mem (by simp [same, onPath])]
        omega

/-- A path that a listed name joins leaves fewer names unvisited. -/
theorem unvisited_cons_lt {names path : List String} {name : String}
    (listed : name ∈ names) (fresh : name ∉ path) :
    unvisited names (name :: path) < unvisited names path := by
  induction names with
  | nil => exact absurd listed List.not_mem_nil
  | cons head rest ih =>
    by_cases same : head = name
    · subst same
      rw [unvisited_of_not_mem fresh, unvisited_of_mem List.mem_cons_self]
      exact Nat.lt_succ_of_le (unvisited_cons_le rest path head)
    · have later : name ∈ rest := (List.mem_cons.mp listed).resolve_left (Ne.symm same)
      by_cases onPath : head ∈ path
      · rw [unvisited_of_mem onPath, unvisited_of_mem (List.mem_cons_of_mem _ onPath)]
        exact ih later
      · rw [unvisited_of_not_mem onPath, unvisited_of_not_mem (by simp [same, onPath])]
        exact Nat.succ_lt_succ (ih later)

/-- A name with callees is a name of the graph. -/
theorem mem_keys_of_get? {graph : CallGraph} {name : String} {callees : List String}
    (found : graph.get? name = some callees) : name ∈ graph.keys := by
  induction graph with
  | nil => simp at found
  | cons entry rest ih =>
    obtain ⟨key, value⟩ := entry
    rw [Assoc.get?_cons] at found
    by_cases same : key = name
    · simp [Assoc.keys, same]
    · rw [if_neg same] at found
      have := ih found
      simp [Assoc.keys] at this ⊢
      exact Or.inr this

/-- How a search ends: with a cycle, or with the names it has finished. -/
inductive Search
  | cycle (names : List String)
  | finished (names : List String)
deriving DecidableEq, Repr

/-- The names of a path, nearest first, from a name on it to its end, closed by
that name. -/
def closeCycle (path : List String) (name : String) : List String :=
  name :: ((path.takeWhile (· ≠ name)).reverse ++ [name])

/-- Visit callees in order. `path` holds the names being visited, the nearest
first, and `done` the names whose callees are all finished. -/
def explore (graph : CallGraph) (path done : List String) : List String → Search
  | [] => .finished done
  | name :: rest =>
    if onPath : name ∈ path then .cycle (closeCycle path name)
    else if name ∈ done then explore graph path done rest
    else
      match found : graph.get? name with
      | none => explore graph path (name :: done) rest
      | some callees =>
        have := unvisited_cons_lt (mem_keys_of_get? found) onPath
        match explore graph (name :: path) done callees with
        | .cycle names => .cycle names
        | .finished done => explore graph path (name :: done) rest
termination_by names => (unvisited graph.keys path, names.length)

/-- The first cycle met when the names of a graph are visited in order. Its
first name is repeated at its end. -/
def findCycle? (graph : CallGraph) : Option (List String) :=
  match explore graph [] [] graph.keys with
  | .cycle names => some names
  | .finished _ => none

end CallGraph

/-- Fail when the targets' call graph has a cycle. -/
def checkAcyclic (expander : Expander) (producers : Producers) (targets : List Target) :
    Traced Failure Unit := do
  let graph ← CallGraph.ofTargets expander producers targets
  match graph.findCycle? with
  | none => pure ()
  | some cycle =>
    Traced.report (.cycleDetected cycle)
    (Failure.cyclic cycle).throw

end RunOnce.Ordering
