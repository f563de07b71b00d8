import Mathlib.Data.Set.Card
import RunOnce.Text.Indented

/-!
# Open blocks of a writer

A history of a writer enters and leaves blocks. A block is left by the first departure that
comes when all blocks entered inside it have been left, and until then it is open. The
history falls apart at the blocks that are open: what lies between them is balanced. So the
level of the writer is their number. It is also what was entered less what was left, as long
as at no time more has been left than entered.
-/

namespace RunOnce.Text.Writer

/-! ## Balanced histories -/

/-- What a step does to a level that is counted with its sign. -/
def Step.change : Step → Int
  | .line _ | .block _ => 0
  | .enter => 1
  | .leave _ => -1

/-- How many more blocks a history enters than it leaves. -/
def surplus (history : List Step) : Int :=
  (history.map Step.change).sum

@[simp]
theorem surplus_nil : surplus [] = 0 :=
  rfl

@[simp]
theorem surplus_cons (step : Step) (history : List Step) :
    surplus (step :: history) = step.change + surplus history := by
  simp [surplus]

@[simp]
theorem surplus_append (first second : List Step) :
    surplus (first ++ second) = surplus first + surplus second := by
  simp [surplus]

/-- A step of two histories put together stands in the first or in the second. -/
theorem append_cons_eq_append {first second front after : List Step} {step : Step}
    (same : front ++ step :: after = first ++ second) :
    (∃ between, first = front ++ step :: between ∧ after = between ++ second) ∨
      ∃ between, front = first ++ between ∧ second = between ++ step :: after := by
  obtain ⟨between, rfl, behind⟩ | ⟨between, rfl, behind⟩ := List.append_eq_append_iff.mp same
  · cases between with
    | nil => exact Or.inr ⟨[], by simp, behind.symm⟩
    | cons other between =>
      obtain ⟨rfl, rfl⟩ := List.cons.inj behind
      exact Or.inl ⟨between, rfl, rfl⟩
  · exact Or.inr ⟨between, rfl, behind⟩

/-- Whether a history leaves every block that it enters, and no other. -/
inductive Balanced : List Step → Prop
  | nil : Balanced []
  | line (text : String) {rest : List Step} (later : Balanced rest) :
      Balanced (.line text :: rest)
  | block (text : String) {rest : List Step} (later : Balanced rest) :
      Balanced (.block text :: rest)
  | within (departure : Departure) {inside rest : List Step} (body : Balanced inside)
      (later : Balanced rest) : Balanced (.enter :: (inside ++ .leave departure :: rest))

namespace Balanced

theorem append {first second : List Step} (front : Balanced first) (back : Balanced second) :
    Balanced (first ++ second) := by
  induction front with
  | nil => exact back
  | line text _ ih => exact .line text ih
  | block text _ ih => exact .block text ih
  | within departure body _ _ ih =>
    rw [List.cons_append, List.append_assoc]
    exact .within departure body ih

theorem surplus_eq_zero {history : List Step} (balanced : Balanced history) :
    surplus history = 0 := by
  induction balanced with
  | nil => rfl
  | line _ _ ih | block _ _ ih => simp [Step.change, ih]
  | within _ _ _ inside later => simp [Step.change, inside, later]

/-- At no time has a balanced history left more blocks than it has entered. -/
theorem surplus_nonneg {history past : List Step} (balanced : Balanced history)
    (started : past <+: history) : 0 ≤ surplus past := by
  induction balanced generalizing past with
  | nil => simp [List.prefix_nil.mp started]
  | line _ _ ih | block _ _ ih =>
    obtain rfl | ⟨past, rfl, begun⟩ := List.prefix_cons_iff.mp started
    · simp
    · simpa [Step.change] using ih begun
  | @within departure inside rest body _ duringBody duringRest =>
    obtain rfl | ⟨past, rfl, begun⟩ := List.prefix_cons_iff.mp started
    · simp
    obtain early | ⟨past, rfl⟩ :=
      List.prefix_or_prefix_of_prefix begun (List.prefix_append inside _)
    · have within := duringBody early
      simp only [surplus_cons, Step.change]
      omega
    · -- The departure takes back what the entry gave.
      have ended := body.surplus_eq_zero
      obtain rfl | ⟨past, rfl, after⟩ :=
        List.prefix_cons_iff.mp ((List.prefix_append_right_inj inside).mp begun)
      · simp [Step.change, ended]
      · simpa [Step.change, ended] using duringRest after

/-- In a balanced history a departure does not come after a balanced one. -/
theorem not_balanced_before_leave {history front rest : List Step} {departure : Departure}
    (balanced : Balanced history) (left : history = front ++ .leave departure :: rest) :
    ¬ Balanced front := by
  intro complete
  have started : front ++ [.leave departure] <+: history := by simp [left]
  have closed := balanced.surplus_nonneg started
  simp [complete.surplus_eq_zero, Step.change] at closed

/-- A block that a balanced history enters is left after a balanced history. -/
theorem exists_departure {history front after : List Step} (balanced : Balanced history)
    (entered : history = front ++ .enter :: after) :
    ∃ inside departure rest, after = inside ++ .leave departure :: rest ∧ Balanced inside := by
  induction balanced generalizing front after with
  | nil => simp at entered
  | line _ _ ih | block _ _ ih =>
    cases front with
    | nil => cases entered
    | cons step front => exact ih (List.cons.inj entered).2
  | @within departure inside rest body _ inBody inRest =>
    cases front with
    | nil =>
      obtain rfl := (List.cons.inj entered).2
      exact ⟨inside, departure, rest, rfl, body⟩
    | cons step front =>
      obtain ⟨between, early, rfl⟩ | ⟨between, _, late⟩ :=
        append_cons_eq_append (List.cons.inj entered).2.symm
      · obtain ⟨inner, leaving, others, rfl, complete⟩ := inBody early
        exact ⟨inner, leaving, others ++ .leave departure :: rest, by simp, complete⟩
      · cases between with
        | nil => cases late
        | cons step between => exact inRest (List.cons.inj late).2

end Balanced

/-! ## Open blocks -/

/-- Whether a block was entered at a place of a history and has not been left since: no
departure has come after a balanced history. -/
def StillOpen (history : List Step) (place : Nat) : Prop :=
  ∃ front after, history = front ++ .enter :: after ∧ front.length = place ∧
    ∀ inside departure rest, after = inside ++ .leave departure :: rest → ¬ Balanced inside

/-- The places of a history at which the blocks were entered that are still open. -/
def openPlaces (history : List Step) : Set Nat :=
  {place | StillOpen history place}

theorem StillOpen.lt_length {history : List Step} {place : Nat}
    (stillOpen : StillOpen history place) : place < history.length := by
  obtain ⟨front, after, rfl, rfl, _⟩ := stillOpen
  simp

/-- A block that is still open after more has happened was open before, or was entered since
then. -/
theorem StillOpen.append_cases {history more : List Step} {place : Nat}
    (stillOpen : StillOpen (history ++ more) place) :
    StillOpen history place ∨ ∃ later, StillOpen more later ∧ place = history.length + later := by
  obtain ⟨front, after, same, rfl, unleft⟩ := stillOpen
  obtain ⟨between, rfl, rfl⟩ | ⟨between, rfl, rfl⟩ := append_cons_eq_append same.symm
  · refine Or.inl ⟨front, between, rfl, rfl, ?_⟩
    rintro inside departure rest rfl
    exact unleft inside departure (rest ++ more) (by simp)
  · exact Or.inr ⟨between.length, ⟨between, after, rfl, rfl, unleft⟩, by simp⟩

theorem Balanced.not_stillOpen {history : List Step} (balanced : Balanced history)
    (place : Nat) : ¬ StillOpen history place := by
  rintro ⟨front, after, entered, _, unleft⟩
  obtain ⟨inside, departure, rest, left, complete⟩ := balanced.exists_departure entered
  exact unleft inside departure rest left complete

/-- A block that is open when another one is entered stays open as long as that one is. -/
theorem StillOpen.append_enter {history inside : List Step} {place : Nat}
    (stillOpen : StillOpen history place) (balanced : Balanced inside) :
    StillOpen (history ++ .enter :: inside) place := by
  obtain ⟨front, after, rfl, rfl, unleft⟩ := stillOpen
  refine ⟨front, after ++ .enter :: inside, by simp, rfl, ?_⟩
  intro body departure rest left complete
  obtain ⟨between, early, _⟩ | ⟨between, rfl, late⟩ := append_cons_eq_append left.symm
  · exact unleft body departure between early complete
  · cases between with
    | nil => cases late
    | cons step between =>
      -- The block entered later would have been left first.
      rw [List.cons_append] at late
      obtain ⟨rfl, rfl⟩ := List.cons.inj late
      obtain ⟨inner, leaving, others, behind, ended⟩ := complete.exists_departure rfl
      have leftWithin : between ++ .leave departure :: rest =
          inner ++ .leave leaving :: (others ++ .leave departure :: rest) := by
        rw [behind, List.append_assoc, List.cons_append]
      exact balanced.not_balanced_before_leave leftWithin ended

/-- How a history falls apart at the blocks that are still open: the places at which they
were entered, the latest first. -/
inductive Nests : List Step → List Nat → Prop
  | settled {history : List Step} (nothing : ∀ place, ¬ StillOpen history place) :
      Nests history []
  | within {history inside : List Step} {places : List Nat} (outer : Nests history places)
      (balanced : Balanced inside) :
      Nests (history ++ .enter :: inside) (history.length :: places)

namespace Nests

/-- Exactly the places at which a history falls apart are those of open blocks. -/
theorem mem_iff {history : List Step} {places : List Nat} (nests : Nests history places)
    (place : Nat) : place ∈ places ↔ StillOpen history place := by
  induction nests with
  | settled nothing => simp [nothing place]
  | @within history inside places _ balanced ih =>
    rw [List.mem_cons]
    constructor
    · rintro (rfl | earlier)
      · refine ⟨history, inside, rfl, rfl, ?_⟩
        intro body departure rest left
        exact balanced.not_balanced_before_leave left
      · exact (ih.mp earlier).append_enter balanced
    · intro stillOpen
      obtain earlier | ⟨later, latest, rfl⟩ := stillOpen.append_cases
      · exact Or.inr (ih.mpr earlier)
      · -- Whatever was entered after the latest of these blocks has been left.
        have entered : StillOpen ([.enter] ++ inside) later := latest
        obtain here | ⟨_, inner, _⟩ := entered.append_cases
        · have first := here.lt_length
          simp at first
          exact Or.inl (by simp [first])
        · exact absurd inner (balanced.not_stillOpen _)

theorem nodup {history : List Step} {places : List Nat} (nests : Nests history places) :
    places.Nodup := by
  induction nests with
  | settled => exact List.nodup_nil
  | within outer _ ih =>
    refine List.nodup_cons.mpr ⟨fun again => ?_, ih⟩
    exact Nat.lt_irrefl _ ((outer.mem_iff _).mp again).lt_length

/-- Just so many blocks are still open. -/
theorem encard_openPlaces {history : List Step} {places : List Nat}
    (nests : Nests history places) : (openPlaces history).encard = places.length := by
  have same : openPlaces history = places.toFinset := by
    ext place
    simp [openPlaces, nests.mem_iff]
  rw [same, Set.encard_coe_eq_coe_finsetCard, List.toFinset_card_of_nodup nests.nodup]

theorem append_of_not_stillOpen {history more : List Step}
    (nothing : ∀ place, ¬ StillOpen history place) (nothingMore : ∀ place, ¬ StillOpen more place) :
    Nests (history ++ more) [] := by
  refine .settled fun place stillOpen => ?_
  obtain earlier | ⟨later, inMore, _⟩ := stillOpen.append_cases
  · exact nothing place earlier
  · exact nothingMore later inMore

/-- A balanced history changes nothing about the open blocks. -/
theorem append_balanced {history more : List Step} {places : List Nat}
    (nests : Nests history places) (balanced : Balanced more) :
    Nests (history ++ more) places := by
  cases nests with
  | settled nothing => exact append_of_not_stillOpen nothing balanced.not_stillOpen
  | within outer inside =>
    rw [List.append_assoc, List.cons_append]
    exact .within outer (inside.append balanced)

/-- A departure closes the block that was entered last, if any is open. -/
theorem append_leave {history : List Step} {places : List Nat} (nests : Nests history places)
    (departure : Departure) : Nests (history ++ [.leave departure]) places.tail := by
  cases nests with
  | settled nothing =>
    refine append_of_not_stillOpen nothing ?_
    rintro place ⟨front, after, same, -⟩
    have entered : Step.enter ∈ [Step.leave departure] := by simp [same]
    simp at entered
  | within outer inside =>
    rw [List.append_assoc, List.cons_append]
    exact outer.append_balanced (.within departure inside .nil)

end Nests

/-! ## The level -/

theorem run_append (writer : Writer) (first second : List Step) :
    writer.run (first ++ second) = (writer.run first).run second :=
  List.foldl_append

@[simp]
theorem size_run (writer : Writer) (history : List Step) :
    (writer.run history).size = writer.size := by
  induction history generalizing writer with
  | nil => rfl
  | cons step rest ih => exact ih (writer.apply step)

/-- The level after a history is the number of the places at which it falls apart. -/
theorem exists_nests (size : Int) (history : List Step) :
    ∃ places, Nests history places ∧ ((ofSize size).run history).level = places.length := by
  induction history using List.reverseRecOn with
  | nil => exact ⟨[], .settled fun _ => Balanced.nil.not_stillOpen _, rfl⟩
  | append_singleton history step ih =>
    obtain ⟨places, nests, level⟩ := ih
    rw [run_append]
    cases step with
    | line text => exact ⟨places, nests.append_balanced (.line text .nil), level⟩
    | block text => exact ⟨places, nests.append_balanced (.block text .nil), level⟩
    | enter => exact ⟨history.length :: places, .within nests .nil, congrArg Nat.succ level⟩
    | leave departure =>
      refine ⟨places.tail, nests.append_leave departure, ?_⟩
      rw [List.length_tail, ← level]
      rfl

theorem encard_openPlaces (size : Int) (history : List Step) :
    (openPlaces history).encard = ((ofSize size).run history).level := by
  obtain ⟨places, nests, level⟩ := exists_nests size history
  rw [nests.encard_openPlaces, level]

/-- A step that leaves no block but an open one changes the level by what it counts. -/
theorem level_apply {writer : Writer} {step : Step} (entered : 0 ≤ writer.level + step.change) :
    ((writer.apply step).level : Int) = writer.level + step.change := by
  cases step with
  | line _ | block _ | enter => simp [apply, levelAfter, Step.change]
  | leave departure =>
    simp only [Step.change] at entered
    simp only [apply, levelAfter, Step.change]
    omega

/-- As long as no more blocks are left than were entered, the level is what was entered less
what was left. -/
theorem level_run {writer : Writer} {history : List Step}
    (entered : ∀ past, past <+: history → 0 ≤ writer.level + surplus past) :
    ((writer.run history).level : Int) = writer.level + surplus history := by
  induction history generalizing writer with
  | nil => simp [run]
  | cons step rest ih =>
    have first : ((writer.apply step).level : Int) = writer.level + step.change :=
      level_apply (by simpa using entered [step] (by simp))
    have later : (((writer.apply step).run rest).level : Int) =
        (writer.apply step).level + surplus rest := by
      refine ih fun past started => ?_
      have throughout := entered (step :: past) (List.cons_prefix_cons.mpr ⟨rfl, started⟩)
      rw [surplus_cons] at throughout
      omega
    calc ((writer.run (step :: rest)).level : Int)
        = (writer.apply step).level + surplus rest := later
      _ = writer.level + surplus (step :: rest) := by rw [first, surplus_cons]; omega

/-- A balanced history brings the level back to what it was. -/
theorem Balanced.level_run {history : List Step} (balanced : Balanced history)
    (writer : Writer) : (writer.run history).level = writer.level := by
  have level : ((writer.run history).level : Int) = writer.level + surplus history :=
    Writer.level_run fun past started =>
      Int.add_nonneg (Int.natCast_nonneg _) (balanced.surplus_nonneg started)
  rw [balanced.surplus_eq_zero] at level
  omega

end RunOnce.Text.Writer
