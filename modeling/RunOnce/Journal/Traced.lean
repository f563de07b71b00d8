import RunOnce.Journal.Event

/-!
# Traced computations

A computation that reports events on its way to an outcome. The events reported
before a failure are kept. The outcome of a sequence of computations is the
sequence of the outcomes, whatever was reported in between.
-/

namespace RunOnce.Journal

universe u v

/-- The events a computation reported, and how it ended. -/
structure Traced (ε : Type u) (α : Type v) where
  events : List Event
  outcome : Except ε α

namespace Traced

variable {ε : Type u} {α β : Type v}

/-- Succeed without reporting anything. -/
protected def pure (value : α) : Traced ε α :=
  ⟨[], .ok value⟩

/-- Continue with the value of a computation, keeping what it reported. -/
protected def bind (first : Traced ε α) (next : α → Traced ε β) : Traced ε β :=
  match first.outcome with
  | .ok value => ⟨first.events ++ (next value).events, (next value).outcome⟩
  | .error failure => ⟨first.events, .error failure⟩

instance : Monad (Traced ε) where
  pure := Traced.pure
  bind := Traced.bind

/-- Report one event. -/
def report (event : Event) : Traced ε PUnit :=
  ⟨[event], .ok ⟨⟩⟩

/-- Take over an outcome that reported nothing. -/
def ofExcept (outcome : Except ε α) : Traced ε α :=
  ⟨[], outcome⟩

/-- Say otherwise why a computation failed. -/
def mapError {ε' : Type u} (change : ε → ε') (computation : Traced ε α) : Traced ε' α :=
  ⟨computation.events, computation.outcome.mapError change⟩

/-- The value of a computation that cannot fail. -/
def value (computation : Traced Empty α) : α :=
  match computation.outcome with
  | .ok value => value
  | .error impossible => nomatch impossible

@[simp]
theorem outcome_pure (value : α) : (pure value : Traced ε α).outcome = .ok value :=
  rfl

@[simp]
theorem events_pure (value : α) : (pure value : Traced ε α).events = [] :=
  rfl

@[simp]
theorem outcome_mapError {ε' : Type u} (change : ε → ε') (computation : Traced ε α) :
    (computation.mapError change).outcome = computation.outcome.mapError change :=
  rfl

theorem outcome_bind (first : Traced ε α) (next : α → Traced ε β) :
    (first >>= next).outcome = first.outcome.bind fun value => (next value).outcome := by
  obtain ⟨events, outcome⟩ := first
  cases outcome <;> rfl

end Traced

end RunOnce.Journal
