import RunOnce.Model.Writing
import RunOnce.Proofs.Assoc
import RunOnce.Proofs.Model.Admission

/-!
# The normal form of a document

What is read from a document is written with all fields, truth values as such and texts as
texts. Reading that gives the same again: every kind of value reads back what is written of
it, every default passes the check of its own field, and every field that is written is one
that the reader knows. So a document that is admitted has a normal form, with its entries in
the same order, and the normal form stands for the same model.
-/

namespace RunOnce.Document

theorem Checked.seqRight_eq_valid_iff {α β : Type} {x : Checked α} {y : Checked β} {result : β} :
    x *> y = .valid result ↔ (∃ value, x = .valid value) ∧ y = .valid result := by
  change Checked.seq (Checked.map (Function.const α id) x) y = .valid result ↔ _
  cases x <;> cases y <;> simp [Checked.seq, Checked.map]

/-- Whether everything that is read is read again from what is written of it. -/
def ReadsBack {α : Type} (read : Value → Checked α) (write : α → Value) : Prop :=
  ∀ value entry, read value = .valid entry → read (write entry) = .valid entry

/-! ## Single values -/

theorem readText_readsBack : ReadsBack readText .text :=
  fun _ _ _ => rfl

theorem readBool_readsBack : ReadsBack readBool .bool :=
  fun _ _ _ => rfl

/-- A name is written as the text that it is. -/
theorem readName_readsBack : ReadsBack readName .text := by
  intro value name valid
  obtain ⟨characters, _, checked⟩ := Checked.andThen_eq_valid_iff.mp valid
  change (if name = "" then _ else _) = _
  split at checked
  · cases checked
  · rename_i nonempty
    cases checked
    exact if_neg nonempty

/-! ## Lists and mappings -/

theorem readList_readsBack {α : Type} {read : Value → Checked α} {write : α → Value}
    (back : ReadsBack read write) :
    ReadsBack (readList read) fun entries => .list (entries.map write) := by
  intro value entries valid
  obtain ⟨items, listed, placed⟩ := readList_eq_valid_iff.mp valid
  refine readList_eq_valid_iff.mpr ⟨_, rfl, List.forall₂_map_left_iff.mpr ?_⟩
  clear valid listed
  induction placed with
  | nil => exact .nil
  | cons first _ ih => exact .cons (back _ _ first) ih

/-- Texts under text keys are read as they are. -/
theorem readTextEntries_texts (entries : List (String × String)) :
    readTextEntries (entries.map fun entry => (.text entry.1, .text entry.2)) =
      .valid entries := by
  induction entries with
  | nil => rfl
  | cons entry rest ih =>
    rw [List.map_cons, readTextEntries, ih]
    rfl

/-- A mapping that was read has no key twice. -/
theorem nodup_keys_of_readTextMapping {value : Value} {entries : List (String × String)}
    (valid : readTextMapping value = .valid entries) : (Assoc.keys entries).Nodup := by
  cases value with
  | mapping fields number =>
    obtain ⟨settings, _, rfl⟩ := Checked.map_eq_valid_iff.mp valid
    exact Assoc.nodup_keys_ofList settings
  | _ => cases valid

/-- The entries of a mapping that was read are settings that lead to it. -/
theorem readTextMapping_readsBack :
    ReadsBack readTextMapping
      fun entries => .ofFields (entries.map fun entry => (entry.1, .text entry.2)) := by
  intro value entries valid
  have same := Assoc.ofList_of_nodup (nodup_keys_of_readTextMapping valid)
  simp only [Value.ofFields, List.map_map, Function.comp_def, readTextMapping,
    readTextEntries_texts, Checked.map, same]

/-! ## Fields -/

section Fields

variable {α : Type} {kind : String} {fields written : Fields} {name : String}
  {read : Value → Checked α} {write : α → Value} {entry : α}

/-- A field that must be there is read again where it is written. -/
theorem Fields.required_again (back : ReadsBack read write)
    (valid : fields.required name read = .valid entry)
    (stands : written.get? name = some (write entry)) :
    written.required name read = .valid entry := by
  unfold required at valid ⊢
  rw [stands]
  split at valid
  · exact Checked.under_eq_valid_iff.mpr (back _ _ (Checked.under_eq_valid_iff.mp valid))
  · cases valid

/-- A field that may be left out is read again where it is written, its default if that
passes the check. -/
theorem Fields.optional_again {default : α} (back : ReadsBack read write)
    (passes : read (write default) = .valid default)
    (valid : fields.optional name read default = .valid entry)
    (stands : written.get? name = some (write entry)) :
    written.optional name read default = .valid entry := by
  unfold optional at valid ⊢
  rw [stands]
  split at valid
  · exact Checked.under_eq_valid_iff.mpr (back _ _ (Checked.under_eq_valid_iff.mp valid))
  · cases valid
    exact Checked.under_eq_valid_iff.mpr passes

/-- Entries that are each read are read again where they are written. -/
theorem Fields.ReadsEach.again {entries : List α} (each : fields.ReadsEach name read entries)
    (back : ReadsBack read write) (stands : written.get? name = some (.list (entries.map write))) :
    written.ReadsEach name read entries := by
  rw [← optional_readList_eq_valid_iff] at each ⊢
  exact optional_again (readList_readsBack back) rfl each stands

/-- A model is read from the fields of a mapping. -/
theorem exists_fields_of_readModel {body : Fields → Checked α} {known : List String}
    {document : Value}
    (valid : readModel kind (fun fields => body fields <* fields.onlyKnown known) document =
      .valid entry) :
    ∃ (fields : Fields) (number : Option Nat), document = .mapping fields number ∧
      body fields = .valid entry := by
  cases document with
  | mapping fields number =>
    rw [readModel, readFields] at valid
    split at valid
    · cases valid
    · exact ⟨fields, number, rfl, (Checked.seqLeft_eq_valid_iff.mp valid).1⟩
  | _ => cases valid

/-- A model is read from fields that are written, if they are the known ones. -/
theorem readModel_ofFields {body : Fields → Checked α} {known : List String}
    {fields : List (String × Value)} (named : ∀ field ∈ fields, field.1 ∈ known)
    (valid : body (fields.map fun field => (.text field.1, field.2)) = .valid entry) :
    readModel kind (fun fields => body fields <* fields.onlyKnown known) (.ofFields fields) =
      .valid entry := by
  have allKnown : ∀ field ∈ fields.map fun field => (Value.text field.1, field.2),
      ∃ name ∈ known, field.1 = .text name := by
    intro field listed
    obtain ⟨source, member, rfl⟩ := List.mem_map.mp listed
    exact ⟨source.1, named source member, rfl⟩
  rw [Value.ofFields, readModel, readFields, if_neg (Fields.not_any_isDamaged allKnown)]
  exact Checked.seqLeft_eq_valid_iff.mpr ⟨valid, (), Fields.onlyKnown_eq_valid_iff.mpr allKnown⟩

end Fields

end RunOnce.Document

namespace RunOnce.Model

open RunOnce.Document

theorem readTextOrNull_readsBack : ReadsBack readTextOrNull optionalText := by
  rintro _ (_ | characters) _ <;> rfl

theorem readTargetName_readsBack : ReadsBack readTargetName .text := by
  intro value name valid
  obtain ⟨other, nameRead, checked⟩ := Checked.andThen_eq_valid_iff.mp valid
  split at checked
  · rename_i proper
    cases checked
    rw [readTargetName, readName_readsBack value _ nameRead]
    exact if_pos proper
  · cases checked

/-! ## Models

Each reading is taken apart into those of the fields, and these are put together again for
the fields that are written. -/

theorem Property.readsBack : ReadsBack Property.read Property.document := by
  intro document property valid
  obtain ⟨fields, _, _, read⟩ := exists_fields_of_readModel valid
  obtain ⟨_, environment, upToReserved, environmentRead, rfl⟩ := Checked.seq_eq_valid_iff.mp read
  obtain ⟨_, reserved, upToExpanded, reservedRead, rfl⟩ :=
    Checked.seq_eq_valid_iff.mp upToReserved
  obtain ⟨_, expanded, upToRaw, expandedRead, rfl⟩ := Checked.seq_eq_valid_iff.mp upToExpanded
  obtain ⟨_, raw, upToName, rawRead, rfl⟩ := Checked.seq_eq_valid_iff.mp upToRaw
  obtain ⟨name, nameRead, rfl⟩ := Checked.map_eq_valid_iff.mp upToName
  refine readModel_ofFields (by simp) ?_
  rw [Fields.required_again readName_readsBack nameRead rfl,
    Fields.optional_again readText_readsBack rfl rawRead rfl,
    Fields.optional_again readText_readsBack rfl expandedRead rfl,
    Fields.optional_again readBool_readsBack rfl reservedRead rfl,
    Fields.optional_again readBool_readsBack rfl environmentRead rfl]
  rfl

theorem Metadatum.readsBack : ReadsBack Metadatum.read Metadatum.document := by
  intro document field valid
  obtain ⟨fields, _, _, read⟩ := exists_fields_of_readModel valid
  obtain ⟨_, evaluated, upToName, evaluatedRead, rfl⟩ := Checked.seq_eq_valid_iff.mp read
  obtain ⟨name, nameRead, rfl⟩ := Checked.map_eq_valid_iff.mp upToName
  refine readModel_ofFields (by simp) ?_
  rw [Fields.required_again readName_readsBack nameRead rfl,
    Fields.optional_again readText_readsBack rfl evaluatedRead rfl]
  rfl

theorem ItemSchema.readsBack : ReadsBack ItemSchema.read ItemSchema.document := by
  intro document schema valid
  obtain ⟨fields, _, _, read⟩ := exists_fields_of_readModel valid
  obtain ⟨_, metadata, upToType, metadataRead, rfl⟩ := Checked.seq_eq_valid_iff.mp read
  obtain ⟨itemType, typeRead, rfl⟩ := Checked.map_eq_valid_iff.mp upToType
  refine readModel_ofFields (by simp) ?_
  rw [Fields.required_again readName_readsBack typeRead rfl,
    Fields.optional_again (readList_readsBack Metadatum.readsBack) rfl metadataRead rfl]
  rfl

theorem Assignment.readsBack : ReadsBack Assignment.read Assignment.document := by
  intro document assignment valid
  obtain ⟨fields, _, _, read⟩ := exists_fields_of_readModel valid
  obtain ⟨_, condition, upToValue, conditionRead, rfl⟩ := Checked.seq_eq_valid_iff.mp read
  obtain ⟨_, raw, upToName, rawRead, rfl⟩ := Checked.seq_eq_valid_iff.mp upToValue
  obtain ⟨name, nameRead, rfl⟩ := Checked.map_eq_valid_iff.mp upToName
  refine readModel_ofFields (by simp) ?_
  rw [Fields.required_again readName_readsBack nameRead rfl,
    Fields.optional_again readText_readsBack rfl rawRead rfl,
    Fields.optional_again readTextOrNull_readsBack rfl conditionRead rfl]
  rfl

theorem PropertyGroup.readsBack : ReadsBack PropertyGroup.read PropertyGroup.document := by
  intro document group valid
  obtain ⟨fields, _, _, read⟩ := exists_fields_of_readModel valid
  obtain ⟨_, afterKind⟩ := Checked.seqRight_eq_valid_iff.mp read
  obtain ⟨_, assignments, upToCondition, assignmentsRead, rfl⟩ :=
    Checked.seq_eq_valid_iff.mp afterKind
  obtain ⟨condition, conditionRead, rfl⟩ := Checked.map_eq_valid_iff.mp upToCondition
  refine readModel_ofFields (by simp) ?_
  rw [Fields.optional_again readTextOrNull_readsBack rfl conditionRead rfl,
    Fields.optional_again (readList_readsBack Assignment.readsBack) rfl assignmentsRead rfl]
  rfl

/-- Whether fields, each read on its own, hold a task. -/
structure Task.HeldBy (task : Task) (fields : Fields) : Prop where
  name : fields.required "name" readName = .valid task.name
  condition : fields.optional "condition" readTextOrNull none = .valid task.condition
  parameters : fields.optional "parameters" readTextMapping [] = .valid task.parameters

theorem Task.exists_heldBy_of_read {document : Value} {task : Task}
    (valid : Task.read document = .valid task) : ∃ fields, task.HeldBy fields := by
  obtain ⟨fields, _, _, read⟩ := exists_fields_of_readModel valid
  obtain ⟨_, afterKind⟩ := Checked.seqRight_eq_valid_iff.mp read
  obtain ⟨_, parameters, upToCondition, parametersRead, rfl⟩ :=
    Checked.seq_eq_valid_iff.mp afterKind
  obtain ⟨_, condition, upToName, conditionRead, rfl⟩ :=
    Checked.seq_eq_valid_iff.mp upToCondition
  obtain ⟨name, nameRead, rfl⟩ := Checked.map_eq_valid_iff.mp upToName
  exact ⟨fields, nameRead, conditionRead, parametersRead⟩

theorem Task.readsBack : ReadsBack Task.read Task.document := by
  intro document task valid
  obtain ⟨fields, held⟩ := Task.exists_heldBy_of_read valid
  refine readModel_ofFields (by simp) ?_
  rw [Fields.required_again readName_readsBack held.name rfl,
    Fields.optional_again readTextOrNull_readsBack rfl held.condition rfl,
    Fields.optional_again readTextMapping_readsBack rfl held.parameters rfl]
  rfl

/-- An element is written with the tag of its own kind, so it is read as that kind. -/
theorem Child.readsBack : ReadsBack Child.read Child.document := by
  intro document child valid
  cases document with
  | mapping fields number =>
    rw [Child.read] at valid
    split at valid
    · cases valid
    · obtain ⟨group, groupRead, rfl⟩ :=
        Checked.map_eq_valid_iff.mp (Checked.under_eq_valid_iff.mp valid)
      have again := PropertyGroup.readsBack (.mapping fields number) group groupRead
      exact Checked.under_eq_valid_iff.mpr (Checked.map_eq_valid_iff.mpr ⟨group, again, rfl⟩)
    · obtain ⟨task, taskRead, rfl⟩ :=
        Checked.map_eq_valid_iff.mp (Checked.under_eq_valid_iff.mp valid)
      have again := Task.readsBack (.mapping fields number) task taskRead
      exact Checked.under_eq_valid_iff.mpr (Checked.map_eq_valid_iff.mpr ⟨task, again, rfl⟩)
    · cases valid
  | _ => cases valid

/-- Whether fields, each read on its own, hold a target. -/
structure Target.HeldBy (target : Target) (fields : Fields) : Prop where
  name : fields.required "name" readTargetName = .valid target.name
  condition : fields.optional "condition" readTextOrNull none = .valid target.condition
  dependsOn : fields.optional "depends_on_targets" readText "" = .valid target.dependsOnTargets
  before : fields.optional "before_targets" readText "" = .valid target.beforeTargets
  after : fields.optional "after_targets" readText "" = .valid target.afterTargets
  children : fields.ReadsEach "children" Child.read target.children

theorem Target.exists_heldBy_of_read {document : Value} {target : Target}
    (valid : Target.read document = .valid target) :
    ∃ fields number, document = .mapping fields number ∧ target.HeldBy fields := by
  obtain ⟨fields, number, same, read⟩ := exists_fields_of_readModel valid
  obtain ⟨_, children, upToAfter, childrenRead, rfl⟩ := Checked.seq_eq_valid_iff.mp read
  obtain ⟨_, after, upToBefore, afterRead, rfl⟩ := Checked.seq_eq_valid_iff.mp upToAfter
  obtain ⟨_, before, upToDepends, beforeRead, rfl⟩ := Checked.seq_eq_valid_iff.mp upToBefore
  obtain ⟨_, depends, upToCondition, dependsRead, rfl⟩ := Checked.seq_eq_valid_iff.mp upToDepends
  obtain ⟨_, condition, upToName, conditionRead, rfl⟩ :=
    Checked.seq_eq_valid_iff.mp upToCondition
  obtain ⟨name, nameRead, rfl⟩ := Checked.map_eq_valid_iff.mp upToName
  exact ⟨fields, number, same, nameRead, conditionRead, dependsRead, beforeRead, afterRead,
    Fields.optional_readList_eq_valid_iff.mp childrenRead⟩

theorem Target.readsBack : ReadsBack Target.read Target.document := by
  intro document target valid
  obtain ⟨fields, _, _, held⟩ := Target.exists_heldBy_of_read valid
  have children := Fields.optional_readList_eq_valid_iff.mpr held.children
  refine readModel_ofFields (by simp) ?_
  rw [Fields.required_again readTargetName_readsBack held.name rfl,
    Fields.optional_again readTextOrNull_readsBack rfl held.condition rfl,
    Fields.optional_again readText_readsBack rfl held.dependsOn rfl,
    Fields.optional_again readText_readsBack rfl held.before rfl,
    Fields.optional_again readText_readsBack rfl held.after rfl,
    Fields.optional_again (readList_readsBack Child.readsBack) rfl children rfl]
  rfl

theorem Project.readsBack : ReadsBack Project.read Project.document := by
  intro document project valid
  obtain ⟨fields, _, _, held, differ⟩ := Project.read_eq_valid_iff.mp valid
  refine Project.read_eq_valid_iff.mpr ⟨_, none, rfl, ?_, differ⟩
  exact {
    known := by simp
    name := Fields.optional_again readTextOrNull_readsBack rfl held.name rfl
    properties := held.properties.again Property.readsBack rfl
    itemSchemas := held.itemSchemas.again ItemSchema.readsBack rfl
    targets := held.targets.again Target.readsBack rfl
    defaultTargets := Fields.optional_again readTextOrNull_readsBack rfl held.defaultTargets rfl }

/-! ## Order -/

/-- The parameters of a task that was read have different names. -/
theorem Task.nodup_keys_parameters {document : Value} {task : Task}
    (valid : Task.read document = .valid task) : (Assoc.keys task.parameters).Nodup := by
  obtain ⟨fields, held⟩ := Task.exists_heldBy_of_read valid
  have parametersRead := held.parameters
  unfold Fields.optional at parametersRead
  split at parametersRead
  · exact nodup_keys_of_readTextMapping (Checked.under_eq_valid_iff.mp parametersRead)
  · rw [← Checked.valid.inj parametersRead]
    exact List.nodup_nil

/-- Whether an element is a task. -/
def Child.isTask (child : Child) : Bool :=
  child.task?.isSome

theorem Target.map_task_tasks (target : Target) :
    target.tasks.map Child.task = target.children.filter Child.isTask := by
  unfold tasks
  induction target.children with
  | nil => rfl
  | cons child rest ih =>
    cases child <;> simp [List.filterMap_cons, List.filter_cons, Child.task?, Child.isTask, ih]

theorem Target.map_group_propertyGroups (target : Target) :
    target.propertyGroups.map Child.group =
      target.children.filter fun child => !child.isTask := by
  unfold propertyGroups
  induction target.children with
  | nil => rfl
  | cons child rest ih => cases child <;>
      simp [List.filterMap_cons, Child.group?, Child.task?, Child.isTask, ih]

/-- A document of any kind of model that is admitted has a normal form, which is admitted as
the same model. The elements of a target's body keep the order of the document's entries, and
the parameters of a task have different names, each at its place. The tasks and the property
groups of a target are together its elements, each one once, and both stand in order. -/
theorem normal_form_read_as_same_model :
    (ReadsBack Property.read Property.document ∧ ReadsBack Metadatum.read Metadatum.document ∧
      ReadsBack ItemSchema.read ItemSchema.document ∧
      ReadsBack Assignment.read Assignment.document ∧
      ReadsBack PropertyGroup.read PropertyGroup.document ∧
      ReadsBack Task.read Task.document ∧ ReadsBack Target.read Target.document ∧
      ReadsBack Project.read Project.document) ∧
    (∀ document target, Target.read document = .valid target →
      ∃ fields number, document = .mapping fields number ∧ target.HeldBy fields) ∧
    (∀ document task, Task.read document = .valid task →
      (Assoc.keys task.parameters).Nodup) ∧
    ∀ target : Target,
      (target.tasks.map Child.task ++ target.propertyGroups.map Child.group).Perm
        target.children ∧
      (target.tasks.map Child.task).Sublist target.children ∧
      (target.propertyGroups.map Child.group).Sublist target.children := by
  refine ⟨⟨Property.readsBack, Metadatum.readsBack, ItemSchema.readsBack, Assignment.readsBack,
    PropertyGroup.readsBack, Task.readsBack, Target.readsBack, Project.readsBack⟩,
    fun _ _ => Target.exists_heldBy_of_read, fun _ _ => Task.nodup_keys_parameters,
    fun target => ?_⟩
  rw [Target.map_task_tasks, Target.map_group_propertyGroups]
  exact ⟨List.filter_append_perm _ _, List.filter_sublist, List.filter_sublist⟩

/-- A project with a truth value given as a number, a body given as a pair, and parameters of
which two have keys that are read as one text. -/
def looseDocument : Value :=
  .ofFields [("targets", .list [.ofFields [("name", .text "Build"), ("children", .pair
      (.ofFields [("kind", .text "task"), ("name", .text "Copy"),
        ("parameters", .mapping [(.text "to", .text "out"), (.text "from", .bytes [97]),
          (.bytes [116, 111], .text "bin")])])
      (.ofFields [("kind", .text "property_group"), ("condition", .null)]))]]),
    ("properties", .list [.ofFields [("name", .text "Out"), ("is_reserved", .int 1)]])]

/-- The project that is read from it. -/
def looseProject : Project where
  properties := [⟨"Out", "", "", true, false⟩]
  targets := [⟨"Build", none, "", "", "",
    [.task ⟨"Copy", none, [("to", "bin"), ("from", "a")]⟩, .group ⟨none, []⟩]⟩]

theorem looseProject_read_again :
    Project.read looseDocument = .valid looseProject ∧
      Project.read looseProject.document = .valid looseProject := by
  have valid : Project.read looseDocument = .valid looseProject := rfl
  exact ⟨valid, normal_form_read_as_same_model.1.2.2.2.2.2.2.2 _ _ valid⟩

end RunOnce.Model
