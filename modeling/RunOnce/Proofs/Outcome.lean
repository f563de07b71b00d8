import Mathlib.Data.List.Forall2
import RunOnce.Failure

/-!
# Outcomes of traced computations

A sequence of computations succeeds exactly when each of them does, and fails
with the failure of the first that does not. These two statements take the
outcome of a sequence apart; what was reported in between plays no part.

Where all that can go wrong is written down as a list, in the order in which it
is met, a computation fails with the first failure of its list. The list of a
sequence is made of the lists of its parts.
-/

namespace RunOnce

universe u v

/-- What succeeds has a result. -/
theorem exists_eq_ok_of_isOk {ε : Type u} {α : Type v} {outcome : Except ε α}
    (succeeds : outcome.isOk = true) : ∃ value, outcome = .ok value := by
  cases outcome with
  | error failure => cases succeeds
  | ok value => exact ⟨value, rfl⟩

/-- Of two steps in a row, both have succeeded if a result is given. -/
theorem exceptBind_eq_ok_iff {ε : Type u} {α β : Type v} {first : Except ε α}
    {next : α → Except ε β} {result : β} :
    first.bind next = .ok result ↔ ∃ value, first = .ok value ∧ next value = .ok result := by
  cases first with
  | error failure => simp [Except.bind]
  | ok value => simp [Except.bind]

/-- Tasks succeed in turn exactly when each of them does. -/
theorem exceptMapM_eq_ok_iff {ε α β : Type} {work : α → Except ε β} {tasks : List α}
    {values : List β} :
    tasks.mapM work = .ok values ↔
      List.Forall₂ (fun task value => work task = .ok value) tasks values := by
  induction tasks generalizing values with
  | nil =>
    rw [List.mapM_nil, List.forall₂_nil_left_iff]
    exact ⟨fun same => (Except.ok.inj same).symm, fun same => congrArg Except.ok same.symm⟩
  | cons task rest ih =>
    rw [List.mapM_cons, List.forall₂_cons_left_iff]
    constructor
    · intro succeeds
      obtain ⟨value, worked, succeeds⟩ := exceptBind_eq_ok_iff.mp succeeds
      obtain ⟨others, workedOthers, succeeds⟩ := exceptBind_eq_ok_iff.mp succeeds
      cases succeeds
      exact ⟨value, others, worked, ih.mp workedOthers, rfl⟩
    · rintro ⟨value, others, worked, workedOthers, rfl⟩
      rw [worked, ih.mpr workedOthers]
      rfl

/-- Tasks fail in turn exactly with the failure of the first one that fails. -/
theorem exceptMapM_eq_error_iff {ε α β : Type} {work : α → Except ε β} {tasks : List α}
    {failure : ε} :
    tasks.mapM work = .error failure ↔
      ∃ earlier task later, tasks = earlier ++ task :: later ∧
        (∀ ahead ∈ earlier, ∃ value, work ahead = .ok value) ∧
        work task = .error failure := by
  induction tasks with
  | nil => simp [pure, Except.pure]
  | cons task rest ih =>
    rw [List.mapM_cons]
    cases worked : work task with
    | error other =>
      constructor
      · intro failed
        cases failed
        exact ⟨[], task, rest, rfl, by simp, worked⟩
      · rintro ⟨_ | ⟨ahead, earlier⟩, failing, later, same, succeed, failed⟩
        · cases same
          rw [worked] at failed
          cases failed
          rfl
        · cases same
          obtain ⟨value, succeeded⟩ := succeed task List.mem_cons_self
          cases worked.symm.trans succeeded
    | ok value =>
      have first : ((.ok value : Except ε β) >>= fun value => do
          let others ← rest.mapM work
          pure (value :: others)) = .error failure ↔ rest.mapM work = .error failure := by
        cases rest.mapM work <;> simp [bind, Except.bind, pure, Except.pure]
      rw [first, ih]
      constructor
      · rintro ⟨earlier, failing, later, rfl, succeed, failed⟩
        exact ⟨task :: earlier, failing, later, rfl,
          List.forall_mem_cons.mpr ⟨⟨value, worked⟩, succeed⟩, failed⟩
      · rintro ⟨_ | ⟨ahead, earlier⟩, failing, later, same, succeed, failed⟩
        · cases same
          cases worked.symm.trans failed
        · cases same
          exact ⟨earlier, failing, later, rfl, (List.forall_mem_cons.mp succeed).2, failed⟩

end RunOnce

namespace RunOnce.Journal.Traced

universe u v

variable {ε : Type u} {α β : Type v}

@[simp]
theorem outcome_report (event : Event) :
    (report event : Traced ε PUnit).outcome = .ok ⟨⟩ :=
  rfl

/-- A sequence succeeds exactly when both parts do. -/
theorem outcome_bind_eq_ok_iff {first : Traced ε α} {next : α → Traced ε β} {result : β} :
    (first >>= next).outcome = .ok result ↔
      ∃ value, first.outcome = .ok value ∧ (next value).outcome = .ok result := by
  rw [outcome_bind]
  exact exceptBind_eq_ok_iff

/-- A sequence fails exactly when its first part does, or its second part does
after the first. -/
theorem outcome_bind_eq_error_iff {first : Traced ε α} {next : α → Traced ε β} {failure : ε} :
    (first >>= next).outcome = .error failure ↔
      first.outcome = .error failure ∨
        ∃ value, first.outcome = .ok value ∧ (next value).outcome = .error failure := by
  rw [outcome_bind]
  cases first.outcome with
  | error other => simp [Except.bind]
  | ok value => simp [Except.bind]

/-- The outcome of a sequence whose first part succeeds is that of its second
part. -/
theorem outcome_bind_of_ok {first : Traced ε α} {next : α → Traced ε β} {value : α}
    (succeeds : first.outcome = .ok value) :
    (first >>= next).outcome = (next value).outcome := by
  rw [outcome_bind, succeeds]
  rfl

/-! ## Failures in order -/

/-- Whether a computation fails with the first of some failures. Without any
failures it succeeds. -/
def FailsInOrder (computation : Traced ε α) (failures : List ε) : Prop :=
  ∀ failure, computation.outcome = .error failure ↔ failures.head? = some failure

theorem failsInOrder_of_ok {computation : Traced ε α} {value : α}
    (succeeds : computation.outcome = .ok value) : FailsInOrder computation [] := by
  intro failure
  simp [succeeds]

theorem failsInOrder_pure (value : α) : FailsInOrder (pure value : Traced ε α) [] :=
  failsInOrder_of_ok (outcome_pure value)

namespace FailsInOrder

/-- A computation succeeds exactly when there is nothing that can go wrong. -/
theorem exists_ok_iff {computation : Traced ε α} {failures : List ε}
    (order : FailsInOrder computation failures) :
    (∃ value, computation.outcome = .ok value) ↔ failures = [] := by
  cases ended : computation.outcome with
  | error failure =>
    have first := (order failure).mp ended
    simp only [reduceCtorEq, exists_false, false_iff]
    rintro rfl
    cases first
  | ok value =>
    simp only [Except.ok.injEq, exists_eq', true_iff]
    cases failures with
    | nil => rfl
    | cons failure rest =>
      rw [(order failure).mpr rfl] at ended
      cases ended

/-- What can go wrong in a sequence is what can go wrong in its first part, and
then what can go wrong in its second part once the first has succeeded. -/
theorem bind {first : Traced ε α} {next : α → Traced ε β} {early late : List ε}
    (firstOrder : FailsInOrder first early)
    (nextOrder : ∀ value, first.outcome = .ok value → FailsInOrder (next value) late) :
    FailsInOrder (first >>= next) (early ++ late) := by
  intro failure
  rw [outcome_bind_eq_error_iff, List.head?_append]
  cases ended : first.outcome with
  | error other =>
    rw [(firstOrder other).mp ended]
    simp
  | ok value =>
    have none : early = [] := firstOrder.exists_ok_iff.mp ⟨value, ended⟩
    subst none
    simpa using nextOrder value ended failure

/-- A last part that cannot fail does not matter. -/
theorem bind_ok {first : Traced ε α} {next : α → Traced ε β} {failures : List ε}
    (order : FailsInOrder first failures)
    (succeeds : ∀ value, ∃ result, (next value).outcome = .ok result) :
    FailsInOrder (first >>= next) failures := by
  have whole := order.bind fun value _ => failsInOrder_of_ok (succeeds value).choose_spec
  rwa [List.append_nil] at whole

end FailsInOrder

end RunOnce.Journal.Traced
