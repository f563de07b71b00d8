import RunOnce.Proofs.Compile.Overrides
import RunOnce.Proofs.Compile.Written
import RunOnce.Proofs.Expansion.Lookups

/-!
# Properties that nothing refers to

A project is compiled from the texts in it that are expanded, and from nothing else that
an expander says. So a property that none of these texts refers to, and that does not
name the default target, has no influence but on its own initial value.
-/

namespace RunOnce.Compile

open RunOnce.Document
open RunOnce.Expansion
open RunOnce.Generated
open RunOnce.Journal
open RunOnce.Model
open RunOnce.Ordering
open RunOnce.Text

/-! ## Expanded texts -/

/-- The texts of an element of a target's body that are expanded. -/
def bodyTexts : Child → List String
  | .group group =>
    group.condition.toList ++
      group.assignments.flatMap fun assignment =>
        assignment.condition.toList ++ [assignment.value]
  | .task task => task.condition.toList ++ task.parameters.map Prod.snd

/-- All texts of a project that are expanded: those that decide which calls are made,
and those in the bodies of targets. -/
def expandedTexts (project : Project) : List String :=
  controlTexts project ++ project.targets.flatMap fun target => target.children.flatMap bodyTexts

/-! ## Procedures under expanders that agree -/

section

variable {expander other : Expander}

theorem valueOrRaw_congr {raw : String} (same : other raw = expander raw) :
    valueOrRaw other raw = valueOrRaw expander raw := by
  simp only [valueOrRaw, same]

theorem mem_toList_of_effective {condition : Option String} {raw : String}
    (own : effective condition = some raw) : raw ∈ condition.toList := by
  simp [(Option.filter_eq_some_iff.mp own).1]

theorem underCondition_congr {condition : Option String}
    (agree : ∀ raw ∈ condition.toList, other raw = expander raw) (statements : List Statement) :
    underCondition other condition statements = underCondition expander condition statements := by
  unfold underCondition
  cases own : effective condition with
  | none => rfl
  | some raw => simp only [valueOrRaw_congr (agree raw (mem_toList_of_effective own))]

theorem writtenAssignment_congr {assignment : Assignment}
    (agree : ∀ raw ∈ assignment.condition.toList ++ [assignment.value],
      other raw = expander raw) :
    writtenAssignment other assignment = writtenAssignment expander assignment := by
  obtain ⟨condition, value⟩ := List.forall_mem_append.mp agree
  unfold writtenAssignment
  rw [underCondition_congr condition, valueOrRaw_congr (value _ (List.mem_singleton_self _))]

theorem mem_arrange {order : ParameterOrder} {parameters : List (String × String)}
    {parameter : String × String} :
    parameter ∈ arrange order parameters ↔ parameter ∈ parameters := by
  cases order with
  | sorted => exact List.mem_mergeSort
  | declared => rfl

theorem writtenTask_congr {task : Task}
    (agree : ∀ raw ∈ task.condition.toList ++ task.parameters.map Prod.snd,
      other raw = expander raw) (order : ParameterOrder) :
    writtenTask other order task = writtenTask expander order task := by
  obtain ⟨condition, values⟩ := List.forall_mem_append.mp agree
  have arguments : withValues other (arrange order task.parameters) =
      withValues expander (arrange order task.parameters) := by
    apply List.map_congr_left
    intro parameter listed
    rw [valueOrRaw_congr (values _ (List.mem_map_of_mem (mem_arrange.mp listed)))]
  simp only [writtenTask, arguments, underCondition_congr condition]

theorem writtenChild_congr {child : Child}
    (agree : ∀ raw ∈ bodyTexts child, other raw = expander raw) (order : ParameterOrder) :
    writtenChild other order child = writtenChild expander order child := by
  cases child with
  | task task => exact writtenTask_congr agree order
  | group group =>
    obtain ⟨condition, inside⟩ := List.forall_mem_append.mp agree
    have assignments : group.assignments.flatMap (writtenAssignment other) =
        group.assignments.flatMap (writtenAssignment expander) := by
      apply List.flatMap_congr
      intro assignment listed
      apply writtenAssignment_congr
      intro raw shown
      exact inside raw (List.mem_flatMap.mpr ⟨assignment, listed, shown⟩)
    simp only [writtenChild, assignments, underCondition_congr condition]

theorem writtenSkip_congr {target : Target}
    (agree : ∀ raw ∈ target.condition.toList, other raw = expander raw) :
    writtenSkip other target = writtenSkip expander target := by
  unfold writtenSkip
  cases own : effective target.condition with
  | none => rfl
  | some raw => simp only [valueOrRaw_congr (agree raw (mem_toList_of_effective own))]

end

/-! ## Projects under expanders that agree -/

section

variable {expander other : Expander} {targets : List Target}

theorem producers_congr (agree : AgreeOnLists expander other targets) :
    Producers.ofTargets other targets = Producers.ofTargets expander targets := by
  have added : ∀ producers : Producers,
      producers.addTargets other targets = producers.addTargets expander targets := by
    induction targets with
    | nil => exact fun _ => rfl
    | cons target rest ih =>
      obtain ⟨here, later⟩ := List.forall_mem_cons.mp agree
      intro producers
      have before := here .before
      have after := here .after
      simp only [OrderingField.raw] at before after
      simp only [Producers.addTargets, Producers.addTarget, expandTargetList, before, after,
        ih later]
  simp only [Producers.ofTargets, added]

theorem checkAcyclic_congr (agree : AgreeOnLists expander other targets) (producers : Producers) :
    checkAcyclic other producers targets = checkAcyclic expander producers targets := by
  have added : ∀ known graph,
      CallGraph.addTargets other producers known graph targets =
        CallGraph.addTargets expander producers known graph targets := by
    intro known
    induction targets with
    | nil => exact fun _ => rfl
    | cons target rest ih =>
      obtain ⟨here, later⟩ := List.forall_mem_cons.mp agree
      intro graph
      have depends := here .dependsOn
      simp only [OrderingField.raw] at depends
      simp only [CallGraph.addTargets, CallGraph.callees, dependencies, expandTargetList, depends,
        ih later]
  simp only [checkAcyclic, CallGraph.ofTargets, added]

/-- A target has the same procedure under expanders that agree on the texts of its
project. -/
theorem written_congr {project : Project}
    (agree : ∀ raw ∈ expandedTexts project, other raw = expander raw) {target : Target}
    (declared : target ∈ project.targets) (producers : Producers) (order : ParameterOrder) :
    written ⟨other, producers, order⟩ target = written ⟨expander, producers, order⟩ target := by
  obtain ⟨control, bodies⟩ := List.forall_mem_append.mp agree
  have skip : writtenSkip other target = writtenSkip expander target := by
    apply writtenSkip_congr
    intro raw stated
    apply control
    apply List.mem_append_right
    exact List.mem_flatMap.mpr ⟨target, declared, List.mem_append_left _ stated⟩
  have depends := (agreeOnLists_of_controlTexts control).listed_eq .dependsOn declared
  have body : target.children.flatMap (writtenChild other order) =
      target.children.flatMap (writtenChild expander order) := by
    apply List.flatMap_congr
    intro child inBody
    apply writtenChild_congr
    intro raw shown
    exact bodies raw (List.mem_flatMap.mpr
      ⟨target, declared, List.mem_flatMap.mpr ⟨child, inBody, shown⟩⟩)
  simp only [written, skip, depends, body]

/-- Apart from the default target, all stages come out alike under expanders that agree on
the texts that decide which calls are made. -/
theorem stagesAgree_of_texts {project : Project} {settings : Settings}
    {globals others : List (String × String)}
    (agree : ∀ raw ∈ controlTexts project, other raw = expander raw)
    (entry : (resolveDefaultTarget project other settings others).outcome =
      (resolveDefaultTarget project expander settings globals).outcome) :
    StagesAgree expander other settings settings globals others project where
  entry := entry
  producers := by rw [producers_congr (agreeOnLists_of_controlTexts agree)]
  checks producers := by
    simp only [checkIfAsked, checkAcyclic_congr (agreeOnLists_of_controlTexts agree)]
  targets := targetFailures_eq_of_agree agree

end

/-! ## Initial values -/

/-- Programs that differ only in their initial values have the same lines around
them. -/
theorem exists_text_around_initializers (size : Nat) (program : Program) :
    ∃ before after, ∀ values,
      { program with initializers := values : Program }.text size =
        renderLines size (before ++ values.map (fun initializer =>
          initializerLine initializer.1 initializer.2) ++ after) := by
  refine ⟨program.flagLines, [⟨0, ""⟩] ++ program.records.flatMap recordLines ++
    program.procedures.flatMap Procedure.lines ++ [program.entryLine], ?_⟩
  intro values
  simp only [Program.text, Program.lines, List.append_assoc]
  rfl

/-! ## One property -/

/-- Whether two sets of global properties give the same value, or none, to each name of a
project but one. -/
def DifferOnlyIn (property : String) (project : Project)
    (globals others : List (String × String)) : Prop :=
  ∀ name, sameName name property = false →
    (PropertyTable.ofProject project others).get? name =
      (PropertyTable.ofProject project globals).get? name

section

variable {project : Project} {globals others : List (String × String)} {settings : Settings}
  {property : String}

/-- Expanders agree on a text that does not refer to the property in which their tables
differ. -/
theorem DifferOnlyIn.expand_eq (differ : DifferOnlyIn property project globals others)
    {raw : String}
    (unreferenced : ∀ name ∈ (PropertyTable.ofProject project globals).references raw,
      sameName name property = false) :
    (PropertyTable.ofProject project others).expand raw =
      (PropertyTable.ofProject project globals).expand raw :=
  PropertyTable.expand_congr fun name found => differ name (unreferenced name found)

/-- The same default target is found, in the project's own list or in another
property. -/
theorem DifferOnlyIn.outcome_resolveDefaultTarget_eq
    (differ : DifferOnlyIn property project globals others) (validated : project.Validated)
    (agree : ∀ raw ∈ project.defaultTargets,
      (PropertyTable.ofProject project others).expand raw =
        (PropertyTable.ofProject project globals).expand raw)
    (elsewhere : project.defaultTargets.filter hasText = none →
      sameName settings.defaultTargetProperty property = false) :
    (resolveDefaultTarget project (PropertyTable.ofProject project others).expand settings
        others).outcome =
      (resolveDefaultTarget project (PropertyTable.ofProject project globals).expand settings
        globals).outcome := by
  cases own : project.defaultTargets.filter hasText with
  | some raw =>
    have agreed := agree raw (Option.filter_eq_some_iff.mp own).1
    simp only [resolveDefaultTarget, defaultTargetList, own, agreed]
  | none =>
    rw [outcome_resolveDefaultTarget_of_blank own, outcome_resolveDefaultTarget_of_blank own,
      ← get?_ofProject_eq_override validated, ← get?_ofProject_eq_override validated,
      differ _ (elsewhere own)]

/-- Properties of other names have the same initial values. -/
theorem DifferOnlyIn.initialValue_eq (differ : DifferOnlyIn property project globals others)
    (validated : project.Validated) {declared : Property}
    (emitted : declared ∈ project.emittedProperties)
    (different : sameName declared.name property = false) :
    (overrideOf? others declared.name).getD declared.expandedValue =
      (overrideOf? globals declared.name).getD declared.expandedValue := by
  have listed := (List.mem_filter.mp emitted).1
  apply Option.some.inj
  rw [← get?_ofProject_of_mem validated others listed,
    ← get?_ofProject_of_mem validated globals listed, differ _ different]

/-- Let two sets of global properties give the same value, or none, to every name but
one. If no reference to that name is found in a text of the project that is expanded, and
if the default target is not looked up under it, then the project fails in the same way
under both, or gives two programs that differ only in the initial value of the property
of this name. -/
theorem unreferenced_property_does_not_interfere (validated : project.Validated)
    (differ : DifferOnlyIn property project globals others)
    (unreferenced : ∀ raw ∈ expandedTexts project,
      ∀ name ∈ (PropertyTable.ofProject project globals).references raw,
        sameName name property = false)
    (elsewhere : project.defaultTargets.filter hasText = none →
      sameName settings.defaultTargetProperty property = false) :
    (∀ failure, (compile settings others project).outcome = .error failure ↔
      (compile settings globals project).outcome = .error failure) ∧
    ∀ compiled, (compile settings globals project).outcome = .ok compiled →
      ∃ other, (compile settings others project).outcome = .ok other ∧
        other.targets = compiled.targets ∧ other.defaultTarget = compiled.defaultTarget ∧
        other.sourceHash = compiled.sourceHash ∧
        other.program =
          { compiled.program with initializers := other.program.initializers } ∧
        ∃ (before after : List Line) (value otherValue : Property → String),
          compiled.text = renderLines settings.indentSize
            (before ++ project.emittedProperties.map (fun declared =>
              initializerLine declared.name (value declared)) ++ after) ∧
          other.text = renderLines settings.indentSize
            (before ++ project.emittedProperties.map (fun declared =>
              initializerLine declared.name (otherValue declared)) ++ after) ∧
          ∀ declared ∈ project.emittedProperties, sameName declared.name property = false →
            otherValue declared = value declared := by
  have agree : ∀ raw ∈ expandedTexts project,
      (PropertyTable.ofProject project others).expand raw =
        (PropertyTable.ofProject project globals).expand raw :=
    fun raw listed => differ.expand_eq (unreferenced raw listed)
  have control := (List.forall_mem_append.mp agree).1
  have entry := differ.outcome_resolveDefaultTarget_eq validated
    (fun raw stated => control raw (List.mem_append_left _ (by simpa using stated))) elsewhere
  have stages := stagesAgree_of_texts control entry
  refine ⟨stages.error_iff, ?_⟩
  intro compiled assembled
  obtain ⟨producers, start, rfl, assembledOther⟩ := stages.exists_programs assembled
  -- Past all expansions, only the initial values are taken from the global properties.
  have programs : programOf (PropertyTable.ofProject project others).expand settings others
        project producers start =
      { programOf (PropertyTable.ofProject project globals).expand settings globals project
          producers start with initializers := initializers project others } := by
    have procedures := List.map_congr_left fun target declared =>
      written_congr agree declared producers settings.parameterOrder
    simp only [programOf, procedures]
  rw [programs] at assembledOther
  obtain ⟨before, after, around⟩ := exists_text_around_initializers settings.indentSize
    (programOf (PropertyTable.ofProject project globals).expand settings globals project
      producers start)
  refine ⟨_, assembledOther, rfl, rfl, rfl, rfl, before, after, _, _, ?_, ?_,
    fun declared => differ.initialValue_eq validated⟩
  · exact (around (initializers project globals)).trans (by rw [initializers, List.map_map]; rfl)
  · exact (around (initializers project others)).trans (by rw [initializers, List.map_map]; rfl)

end

/-- A project with a task that refers to one property, and to another one only behind a
reference that has no value. -/
def labelledProject : Project where
  properties := [
    { name := "Configuration", expandedValue := "Debug" },
    { name := "Label", expandedValue := "none" },
    { name := "MSBuildProjectDefaultTargets", expandedValue := "Build", isReserved := true }]
  targets := [{ name := "Build", children := [.task {
    name := "Message", parameters := [("Text", "$( configuration )$(Missing)$(Label)")] }] }]

/-- A document that is read as the project. -/
def labelledDocument : Value :=
  .mapping [
    (.text "properties", .list [
      .mapping [(.text "name", .text "Configuration"),
        (.text "expanded_value", .text "Debug")],
      .mapping [(.text "name", .text "Label"), (.text "expanded_value", .text "none")],
      .mapping [(.text "name", .text "MSBuildProjectDefaultTargets"),
        (.text "expanded_value", .text "Build"), (.text "is_reserved", .bool true)]]),
    (.text "targets", .list [.mapping [
      (.text "name", .text "Build"),
      (.text "children", .list [.mapping [
        (.text "kind", .text "task"), (.text "name", .text "Message"),
        (.text "parameters", .mapping [
          (.text "Text", .text "$( configuration )$(Missing)$(Label)")])]])]])]

theorem labelledProject_differOnlyIn :
    DifferOnlyIn "LABEL" labelledProject [("label", "x")] [] := by
  intro name different
  have apart : sameName "label" name = false := by
    rw [sameName_comm, sameName_congr (by decide : sameName "label" "LABEL" = true)]
    exact different
  simp [PropertyTable.get?_ofProject, Assoc.lastSetting?, apart]

/-- The scan does not reach the reference behind the one without a value. -/
theorem references_labelledProject :
    (expandedTexts labelledProject).flatMap
        (PropertyTable.ofProject labelledProject [("label", "x")]).references =
      ["configuration", "Missing"] := by
  decide +kernel

/-- Whether the label is overridden shows in its initial value only. -/
theorem labelledProject_label_does_not_interfere :
    Project.read labelledDocument = .valid labelledProject ∧
    ∃ compiled other,
      (compile {} [("label", "x")] labelledProject).outcome = .ok compiled ∧
      (compile {} [] labelledProject).outcome = .ok other ∧
      compiled.program.initializers = [("Configuration", "Debug"), ("Label", "x")] ∧
      other.program = { compiled.program with
        initializers := [("Configuration", "Debug"), ("Label", "none")] } := by
  have read : Project.read labelledDocument = .valid labelledProject := by rfl
  have unreferenced : ∀ raw ∈ expandedTexts labelledProject,
      ∀ name ∈ (PropertyTable.ofProject labelledProject [("label", "x")]).references raw,
        sameName name "LABEL" = false := by
    intro raw expanded name found
    have listed := List.mem_flatMap.mpr ⟨raw, expanded, found⟩
    rw [references_labelledProject] at listed
    clear found
    revert name
    decide
  obtain ⟨compiled, assembled⟩ : ∃ compiled,
      (compile {} [("label", "x")] labelledProject).outcome = .ok compiled :=
    exists_eq_ok_of_isOk (by decide +kernel)
  obtain ⟨other, assembledOther, _, _, _, same, _⟩ :=
    (unreferenced_property_does_not_interfere ⟨labelledDocument, read⟩
      labelledProject_differOnlyIn unreferenced fun _ => by decide).2 compiled assembled
  have initialized := (declarations_assemble assembledOther).1
  refine ⟨read, compiled, other, assembled, assembledOther,
    (declarations_assemble assembled).1.trans (by decide), ?_⟩
  rw [same, initialized]
  rfl

end RunOnce.Compile
