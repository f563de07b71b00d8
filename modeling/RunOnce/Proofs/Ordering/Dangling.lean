import RunOnce.Ordering.Dangling
import RunOnce.Proofs.Ordering.Requests

/-!
# Which references dangle

A list that does not expand is searched as it stands. Where all lists expand,
nothing of this kind is reported, and the dangling references are the names that
the targets list and none of them declares: target by target, field by field, in
the order of the lists and as often as they are listed.
-/

namespace RunOnce.Ordering.Dangling

open RunOnce.Expansion
open RunOnce.Journal
open RunOnce.Model
open RunOnce.Text

/-- The undeclared names that a target lists in a field. -/
def inList (expander : Expander) (known : List String) (target : Target)
    (field : OrderingField) : List Dangling :=
  ((listed expander field target).filter (· ∉ known)).map (⟨target.name, field, ·⟩)

variable {expander : Expander} {known : List String}

theorem inField_of_expands {target : Target} {field : OrderingField}
    (expands : Expands expander field target) :
    inField expander known target field = pure (inList expander known target field) := by
  unfold inField inList listed
  by_cases text : hasText (field.raw target) = true
  · obtain ⟨list, expanded⟩ := expands text
    simp only [text, if_true, expandOrRaw, expanded]
    rfl
  · simp [text]

theorem inFields_of_expands {target : Target} (expand : ∀ field, Expands expander field target)
    (fields : List OrderingField) :
    inFields expander known target fields =
      pure (fields.flatMap (inList expander known target)) := by
  induction fields with
  | nil => rfl
  | cons field rest ih =>
    rw [inFields, inField_of_expands (expand field), ih]
    rfl

theorem among_of_expands {targets : List Target}
    (expand : ∀ target ∈ targets, ∀ field, Expands expander field target) :
    among expander known targets =
      pure (targets.flatMap fun target =>
        OrderingField.all.flatMap (inList expander known target)) := by
  induction targets with
  | nil => rfl
  | cons target rest ih =>
    obtain ⟨expandFirst, expandRest⟩ := List.forall_mem_cons.mp expand
    rw [among, inFields_of_expands expandFirst, ih expandRest]
    rfl

/-- Where all lists expand, the search reports nothing and finds the undeclared
names in them. -/
theorem ofTargets_of_expands {targets : List Target}
    (expand : ∀ target ∈ targets, ∀ field, Expands expander field target) :
    ofTargets expander targets =
      pure (targets.flatMap fun target =>
        OrderingField.all.flatMap (inList expander (declaredNames targets) target)) :=
  among_of_expands expand

/-- The names in one field among the undeclared names of a target. -/
theorem missing_inList (target : Target) (field wanted : OrderingField) :
    ((inList expander known target field).filter (·.field = wanted)).map missing =
      if field = wanted then (listed expander field target).filter (· ∉ known) else [] := by
  by_cases same : field = wanted <;>
    simp [inList, List.filter_map, List.map_map, Function.comp_def, same]

/-- The dangling references in one field are the undeclared names in this field of
all targets. -/
theorem missing_ofTargets {targets : List Target}
    (expand : ∀ target ∈ targets, ∀ field, Expands expander field target)
    (wanted : OrderingField) :
    ((ofTargets expander targets).value.filter (·.field = wanted)).map missing =
      targets.flatMap fun target =>
        (listed expander wanted target).filter (· ∉ declaredNames targets) := by
  rw [ofTargets_of_expands expand]
  change ((targets.flatMap _).filter _).map missing = _
  rw [List.filter_flatMap, List.map_flatMap]
  apply List.flatMap_congr
  intro target _
  rw [List.filter_flatMap, List.map_flatMap]
  simp only [missing_inList, OrderingField.all]
  cases wanted <;> simp

end RunOnce.Ordering.Dangling
