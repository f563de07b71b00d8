import RunOnce.Yaml.Load

/-!
# Collections within one another

No more collections are read within one another than the runtime can go into.
-/

namespace RunOnce.Yaml.Compose

variable {composer after : Composer} {opening : Token} {others : List Token} {bound : Nat}
  {place : Place} {α β : Type} {step : Compose α} {next : α → Compose β} {value : α} {error : Error}

/-! ## Steps -/

theorem run_bind_of_ok (first : step.run composer = .ok (value, after)) :
    (step >>= next).run composer = (next value).run after := by
  rw [StateT.run_bind, first]
  rfl

theorem run_bind_of_error (fails : step.run composer = .error error) :
    (step >>= next).run composer = .error error := by
  rw [StateT.run_bind, fails]
  rfl

theorem run_get : (get : Compose Composer).run composer = .ok (composer, composer) :=
  rfl

theorem run_modify (change : Composer → Composer) :
    (modify change : Compose Unit).run composer = .ok ((), change composer) :=
  rfl

theorem run_add (node : Node) :
    (add node).run composer =
      .ok (composer.graph.size, { composer with graph := composer.graph.add node }) :=
  rfl

theorem run_peek (ahead : composer.tokens = opening :: others) :
    peek.run composer = .ok (opening, composer) := by
  unfold peek
  rw [run_bind_of_ok run_get, ahead]
  rfl

theorem run_take (ahead : composer.tokens = opening :: others) :
    take.run composer = .ok (opening, { composer with tokens := others }) := by
  unfold take
  rw [run_bind_of_ok (run_peek ahead), run_bind_of_ok (run_modify _), ahead]
  rfl

theorem run_peekKind (ahead : composer.tokens = opening :: others) :
    peekKind.run composer = .ok (opening.kind, composer) := by
  unfold peekKind
  rw [run_bind_of_ok (run_peek ahead)]
  rfl

/-- A bracket has neither an anchor nor a tag before it. -/
theorem run_properties (ahead : composer.tokens = opening :: others)
    (opens : opening.kind = .flowSequenceStart) :
    properties.run composer = .ok ({}, composer) := by
  unfold properties
  rw [run_bind_of_ok (run_peek ahead), opens]
  rfl

theorem run_node_opening (ahead : composer.tokens = opening :: others)
    (opens : opening.kind = .flowSequenceStart) :
    (node (bound + 1) place).run composer =
      (collection {} opening.start do
        let _ ← take
        return .sequence (coreTag "seq") (← flowItems bound true) opening.start).run composer := by
  unfold node
  rw [run_bind_of_ok (run_peek ahead), opens]
  dsimp only
  rw [run_bind_of_ok (run_properties ahead opens), run_bind_of_ok (run_peek ahead), opens]
  rfl

theorem run_holding_of_full {mark : Mark} {read : NodeId → Compose Node}
    (full : nestingLimit ≤ composer.depth) :
    (holding mark read).run composer = .error .tooDeep := by
  unfold holding
  rw [run_bind_of_ok run_get]
  dsimp only
  rw [if_pos full]
  rfl

/-- A collection fails as the reading of what it holds does, which is one deeper. -/
theorem run_holding_of_error {mark : Mark} {read : NodeId → Compose Node}
    (room : composer.depth < nestingLimit)
    (fails : (read composer.graph.size).run
      { composer with depth := composer.depth + 1, graph := composer.graph.add (.unwritten mark) } =
        .error error) :
    (holding mark read).run composer = .error error := by
  unfold holding
  rw [run_bind_of_ok run_get]
  dsimp only
  rw [if_neg (by omega), run_bind_of_ok (run_add _), run_bind_of_ok (run_modify _)]
  exact run_bind_of_error fails

theorem run_flowItems_opening (ahead : composer.tokens = opening :: others)
    (opens : opening.kind = .flowSequenceStart) :
    (flowItems (bound + 1) true).run composer =
      (do
        let item ← node bound .flow
        return item :: (← flowItems bound false) : Compose (List NodeId)).run composer := by
  rw [flowItems, run_bind_of_ok (run_peekKind ahead), opens]
  dsimp only
  rw [if_neg (by decide), if_pos rfl, run_bind_of_ok (run_peek ahead), opens]

/-! ## Runs of brackets -/

/-- A bracket that is not the last one the runtime can go into fails as what follows it. -/
theorem run_node_of_error {next : Token} (ahead : composer.tokens = opening :: next :: others)
    (opens : opening.kind = .flowSequenceStart) (alsoOpens : next.kind = .flowSequenceStart)
    (room : composer.depth < nestingLimit)
    (fails : (node bound .flow).run
      { composer with
        tokens := next :: others
        depth := composer.depth + 1
        graph := composer.graph.add (.unwritten opening.start) } = .error error) :
    (node (bound + 2) place).run composer = .error error := by
  rw [run_node_opening ahead opens]
  refine (run_bind_of_ok rfl).trans (run_holding_of_error room ?_)
  refine (run_bind_of_ok rfl).trans ((run_bind_of_ok (run_take (by exact ahead))).trans ?_)
  apply run_bind_of_error
  rw [run_flowItems_opening rfl alsoOpens]
  exact run_bind_of_error fails

/-- More brackets that open one after the other than the runtime can go into are too deep,
whatever comes after them. -/
theorem run_node_of_openings {openings : List Token}
    (open_ : ∀ token ∈ openings, token.kind = .flowSequenceStart)
    (ahead : composer.tokens = openings ++ others)
    (deep : nestingLimit < composer.depth + openings.length)
    (within : composer.depth ≤ nestingLimit) (enough : 2 * openings.length ≤ bound) :
    (node bound place).run composer = .error .tooDeep := by
  induction openings generalizing composer bound place with
  | nil => simp at deep; omega
  | cons opening openings ih =>
    simp only [List.length_cons] at deep enough
    obtain ⟨bound, rfl⟩ : ∃ rest, bound = rest + 2 := ⟨bound - 2, by omega⟩
    have opens := open_ opening List.mem_cons_self
    by_cases full : nestingLimit ≤ composer.depth
    · rw [run_node_opening ahead opens]
      exact (run_bind_of_ok rfl).trans (run_holding_of_full full)
    · cases openings with
      | nil => simp at deep; omega
      | cons next openings =>
        refine run_node_of_error ahead opens (open_ next (by simp)) (by omega) ?_
        refine ih (fun token listed => open_ token (List.mem_cons_of_mem _ listed)) rfl ?_ ?_ ?_
        · simpa [Nat.add_assoc, Nat.add_comm] using deep
        · show composer.depth + 1 ≤ nestingLimit
          omega
        · omega

end RunOnce.Yaml.Compose

namespace RunOnce.Yaml

open Compose

variable {start : Token} {openings rest : List Token}

/-- A document that starts with more brackets than the runtime can go into is not read. -/
theorem load_of_openings {characters : Characters} {stream : TokenStream}
    (split : TokenStream.ofCharacters characters = .ok stream)
    (tokens : stream.tokens = start :: (openings ++ rest))
    (open_ : ∀ token ∈ openings, token.kind = .flowSequenceStart)
    (deep : nestingLimit < openings.length) (others : List Char) :
    load others characters = .error .tooDeep := by
  obtain ⟨opening, more, rfl⟩ := List.exists_cons_of_length_pos (Nat.zero_lt_of_lt deep)
  let composer : Composer := { tokens := stream.tokens, error? := stream.error? }
  have fails : (document (4 * stream.tokens.length + 8)).run composer = .error .tooDeep := by
    unfold document
    rw [run_bind_of_ok (run_take tokens), run_bind_of_ok (run_peekKind rfl),
      open_ opening List.mem_cons_self, if_neg (by decide)]
    refine (run_bind_of_ok (run_modify _)).trans (run_bind_of_error ?_)
    refine run_node_of_openings open_ rfl ?_ (Nat.zero_le _) ?_
    · simpa [composer] using deep
    · simp only [tokens, List.length_cons, List.length_append]
      omega
  have composed : NodeGraph.ofTokens stream = .error .tooDeep := by
    unfold NodeGraph.ofTokens
    dsimp only
    rw [fails]
    rfl
  unfold load
  rw [split]
  dsimp only [bind, Except.bind]
  rw [composed]

end RunOnce.Yaml
