import RunOnce.Model.Reading
import RunOnce.Ordering.CallGraph

/-!
# Validated projects

A project is validated when some document is read as it. Reading a list of
named entries refuses repeated names, so the targets of a validated project have
different names, and its properties have names that differ even in lower case.
-/

namespace RunOnce.Document.Checked

universe u

variable {α β : Type u}

theorem seq_eq_valid_iff {f : Checked (α → β)} {x : Checked α} {result : β} :
    f <*> x = .valid result ↔ ∃ g value, f = .valid g ∧ x = .valid value ∧ g value = result := by
  change Checked.seq f x = .valid result ↔ _
  cases f <;> cases x <;> simp [Checked.seq]

theorem map_eq_valid_iff {f : α → β} {x : Checked α} {result : β} :
    f <$> x = .valid result ↔ ∃ value, x = .valid value ∧ f value = result := by
  change Checked.map f x = .valid result ↔ _
  cases x <;> simp [Checked.map]

theorem andThen_eq_valid_iff {x : Checked α} {next : α → Checked β} {result : β} :
    x.andThen next = .valid result ↔ ∃ value, x = .valid value ∧ next value = .valid result := by
  cases x <;> simp [andThen]

theorem under_eq_valid_iff {step : Step} {x : Checked α} {result : α} :
    x.under step = .valid result ↔ x = .valid result := by
  cases x <;> simp [under]

theorem seqLeft_eq_valid_iff {x : Checked α} {y : Checked β} {result : α} :
    x <* y = .valid result ↔ x = .valid result ∧ ∃ value, y = .valid value := by
  change Checked.seq (Checked.map (Function.const β) x) y = .valid result ↔ _
  cases x <;> cases y <;> simp [Checked.seq, Checked.map]

end RunOnce.Document.Checked

namespace RunOnce.Model

open RunOnce.Document
open RunOnce.Ordering

/-- No name is repeated exactly when the keys are all different and none of them
was seen before. -/
theorem firstRepeated?_go_eq_none_iff (key : String → String) (seen names : List String) :
    firstRepeated?.go key seen names = none ↔
      (names.map key).Nodup ∧ ∀ name ∈ names, key name ∉ seen := by
  induction names generalizing seen with
  | nil => simp [firstRepeated?.go]
  | cons name rest ih =>
    rw [firstRepeated?.go]
    by_cases old : key name ∈ seen
    · simp [old]
    · rw [if_neg old, ih]
      simp only [List.map_cons, List.nodup_cons, List.mem_map, List.mem_cons, not_or,
        forall_eq_or_imp]
      constructor
      · rintro ⟨distinct, fresh⟩
        refine ⟨⟨?_, distinct⟩, old, fun other listed => (fresh other listed).2⟩
        rintro ⟨other, listed, same⟩
        exact (fresh other listed).1 same
      · rintro ⟨⟨unlisted, distinct⟩, _, fresh⟩
        refine ⟨distinct, fun other listed => ⟨fun same => ?_, fresh other listed⟩⟩
        exact unlisted ⟨other, listed, same⟩

theorem firstRepeated?_eq_none_iff (key : String → String) (names : List String) :
    firstRepeated? key names = none ↔ (names.map key).Nodup := by
  rw [firstRepeated?, firstRepeated?_go_eq_none_iff]
  simp

/-- A list that was read has entries with different keys. -/
theorem nodup_of_readDistinct {α : Type} {read : Value → Checked α} {noun : String}
    {nameOf : α → String} {key : String → String} {value : Value} {entries : List α}
    (valid : readDistinct read noun nameOf key value = .valid entries) :
    ((entries.map nameOf).map key).Nodup := by
  obtain ⟨items, _, checked⟩ := Checked.andThen_eq_valid_iff.mp valid
  cases repeated : firstRepeated? key (items.map nameOf) with
  | none =>
    rw [repeated] at checked
    cases checked
    exact (firstRepeated?_eq_none_iff key _).mp repeated
  | some name =>
    rw [repeated] at checked
    cases checked

/-- A list of a project, read or left out, has entries with different keys. -/
theorem nodup_of_optional_readDistinct {α : Type} {fields : Fields} {field : String}
    {read : Value → Checked α} {noun : String} {nameOf : α → String} {key : String → String}
    {entries : List α}
    (valid : fields.optional field (readDistinct read noun nameOf key) [] = .valid entries) :
    ((entries.map nameOf).map key).Nodup := by
  unfold Fields.optional at valid
  split at valid
  · exact nodup_of_readDistinct (Checked.under_eq_valid_iff.mp valid)
  · cases valid
    exact List.nodup_nil

namespace Project

/-- Every list of a project that was read was read from a field of a mapping. -/
theorem exists_fields_of_read {document : Value} {project : Project}
    (valid : Project.read document = .valid project) :
    ∃ fields : Fields,
      fields.optional "properties"
          (readDistinct Property.read "property name" Property.name Text.lower) [] =
        .valid project.properties ∧
      fields.optional "item_schemas"
          (readDistinct ItemSchema.read "item type" ItemSchema.itemType id) [] =
        .valid project.itemSchemas ∧
      fields.optional "targets"
          (readDistinct Target.read "target name" Target.name id) [] =
        .valid project.targets := by
  cases document with
  | mapping fields number =>
    rw [Project.read, readModel, readFields] at valid
    split at valid
    · cases valid
    · obtain ⟨read, _⟩ := Checked.seqLeft_eq_valid_iff.mp valid
      obtain ⟨_, _, upToTargets, _, rfl⟩ := Checked.seq_eq_valid_iff.mp read
      obtain ⟨_, targets, upToSchemas, targetsRead, rfl⟩ :=
        Checked.seq_eq_valid_iff.mp upToTargets
      obtain ⟨_, schemas, upToProperties, schemasRead, rfl⟩ :=
        Checked.seq_eq_valid_iff.mp upToSchemas
      obtain ⟨_, properties, upToName, propertiesRead, rfl⟩ :=
        Checked.seq_eq_valid_iff.mp upToProperties
      obtain ⟨name, _, rfl⟩ := Checked.map_eq_valid_iff.mp upToName
      exact ⟨fields, propertiesRead, schemasRead, targetsRead⟩
  | _ => cases valid

/-- Whether reading some document gives the project. -/
def Validated (project : Project) : Prop :=
  ∃ document, Project.read document = .valid project

/-- The targets of a validated project have different names. -/
theorem Validated.nodup_declaredNames {project : Project} (validated : project.Validated) :
    (declaredNames project.targets).Nodup := by
  obtain ⟨document, valid⟩ := validated
  obtain ⟨fields, _, _, targetsRead⟩ := exists_fields_of_read valid
  simpa [declaredNames] using nodup_of_optional_readDistinct targetsRead

/-- The properties of a validated project have different names, whatever the
case. -/
theorem Validated.nodup_propertyNames {project : Project} (validated : project.Validated) :
    ((project.properties.map Property.name).map Text.lower).Nodup := by
  obtain ⟨document, valid⟩ := validated
  obtain ⟨fields, propertiesRead, _⟩ := exists_fields_of_read valid
  exact nodup_of_optional_readDistinct propertiesRead

end Project

end RunOnce.Model
