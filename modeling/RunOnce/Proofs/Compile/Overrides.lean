import RunOnce.Proofs.Compile.Assembly
import RunOnce.Proofs.Expansion.Substitution

/-!
# Where global properties act

A global property is put in for references to its name, becomes the initial value
of the property of that name, and names the default target if it is called as the
settings say. Each of these is done in its own way: by replacing entries of a
table, by a mapping from lowercase names, and by a search among the properties.
In a validated project all of them come to the same value.
-/

namespace RunOnce.Compile

open RunOnce.Document
open RunOnce.Expansion
open RunOnce.Generated
open RunOnce.Journal
open RunOnce.Journal.Traced
open RunOnce.Model
open RunOnce.Ordering
open RunOnce.Text

variable {project : Project} {globals : List (String × String)} {settings : Settings}

/-! ## Expansions -/

/-- The last global property of a name counts, in whatever case it is written. -/
theorem overrideOf?_eq_lastSetting? (globals : List (String × String)) (name : String) :
    overrideOf? globals name =
      (Assoc.lastSetting? (sameName · name) globals).map Prod.snd := by
  rw [overrideOf?, overrideTable, Assoc.get?_ofList, Assoc.lastSetting?_map_key, Option.map_map]
  rfl

/-- The value that is put in for a name is that of a global property, or else the
project's own. -/
theorem get?_ofProject_eq_override (validated : project.Validated)
    (globals : List (String × String)) (name : String) :
    (PropertyTable.ofProject project globals).get? name =
      (overrideOf? globals name).or
        ((project.getProperty? name).map Property.expandedValue) := by
  rw [PropertyTable.get?_ofProject, overrideOf?_eq_lastSetting?,
    PropertyTable.get?_ownValues validated.nodup_propertyNames]

/-! ## Initial values -/

/-- A property is the one that is found by its name. -/
theorem getProperty?_name (validated : project.Validated) {property : Property}
    (declared : property ∈ project.properties) :
    project.getProperty? property.name = some property := by
  cases found : project.getProperty? property.name with
  | none =>
    have unnamed := List.find?_eq_none.mp found property declared
    simp at unnamed
  | some other =>
    have named : lower other.name = lower property.name := by
      have same := List.find?_some found
      simpa [sameName] using same
    have distinct := validated.nodup_propertyNames
    rw [List.map_map] at distinct
    rw [List.inj_on_of_nodup_map distinct (List.mem_of_find?_eq_some found) declared named]

/-- A property starts out with the value that is put in for its name. -/
theorem get?_ofProject_of_mem (validated : project.Validated)
    (globals : List (String × String)) {property : Property}
    (declared : property ∈ project.properties) :
    (PropertyTable.ofProject project globals).get? property.name =
      some ((overrideOf? globals property.name).getD property.expandedValue) := by
  rw [get?_ofProject_eq_override validated, getProperty?_name validated declared]
  cases overrideOf? globals property.name <;> rfl

/-- The line that gives a property its initial value. -/
def initializerLine (name value : String) : Line :=
  ⟨0, "var " ++ name ++ " = " ++ Literal.encode value ++ ";"⟩

/-- A program has a line for each property that gets an initial value. -/
theorem initializerLines_assemble {expander : Expander} {compiled : Compiled}
    (assembled : (assemble expander settings globals project).outcome = .ok compiled) :
    compiled.program.initializerLines = project.emittedProperties.map fun property =>
      initializerLine property.name
        ((overrideOf? globals property.name).getD property.expandedValue) := by
  obtain ⟨initialized, _⟩ := declarations_assemble assembled
  rw [Program.initializerLines, initialized, initializers, List.map_map]
  rfl

/-! ## Default targets -/

/-- A project without a list of its own has its default target in a property. -/
theorem outcome_resolveDefaultTarget_of_blank
    (blank : project.defaultTargets.filter hasText = none) (expander : Expander) :
    (resolveDefaultTarget project expander settings globals).outcome =
      firstTarget settings.defaultTargetProperty
        ((overrideOf? globals settings.defaultTargetProperty).or
          ((project.getProperty? settings.defaultTargetProperty).map
            Property.expandedValue)) := by
  rw [outcome_resolveDefaultTarget, defaultTargetList, blank]
  dsimp only
  cases overrideOf? globals settings.defaultTargetProperty with
  | some list => rfl
  | none => cases project.getProperty? settings.defaultTargetProperty <;> rfl

/-! ## The same value everywhere -/

/-- In a validated project, the value for a name is that of the last global
property of this name, or else that of the project's own property, or there is
none. An expression expands to its plain text with these values put in for its
references; each property that gets an initial value gets this one, whatever
spelling of its name is looked up; and a project without default targets of its
own calls the first target in the list that is the value of the property for
them, and has no default target if there is no value or no name in it. -/
theorem globals_act_alike (validated : project.Validated) (globals : List (String × String))
    (settings : Settings) :
    (∀ name, (PropertyTable.ofProject project globals).get? name =
      ((overrideTable globals).get? (lower name)).or
        ((project.getProperty? name).map Property.expandedValue)) ∧
    (∀ raw result, (PropertyTable.ofProject project globals).expand raw = .ok result ↔
      ∃ texts,
        List.Forall₂ (Fills (PropertyTable.ofProject project globals).get?)
          (pieces 0 raw.toList) texts ∧ result = String.join texts) ∧
    (∀ compiled, (compile settings globals project).outcome = .ok compiled →
      List.Forall₂
        (fun property line => ∃ value,
          (∀ spelled, sameName spelled property.name = true →
            (PropertyTable.ofProject project globals).get? spelled = some value) ∧
          line = initializerLine property.name value)
        project.emittedProperties compiled.program.initializerLines) ∧
    (project.defaultTargets.filter hasText = none →
      (resolveDefaultTarget project (PropertyTable.ofProject project globals).expand settings
        globals).outcome =
        firstTarget settings.defaultTargetProperty
          ((PropertyTable.ofProject project globals).get? settings.defaultTargetProperty)) := by
  refine ⟨get?_ofProject_eq_override validated globals, ?_, ?_, ?_⟩
  · intro raw result
    exact PropertyTable.expand_eq_ok_iff
  · intro compiled assembled
    rw [initializerLines_assemble assembled]
    apply List.forall₂_map_right_iff.mpr
    apply List.forall₂_same.mpr
    intro property emitted
    refine ⟨_, ?_, rfl⟩
    intro spelled same
    rw [PropertyTable.get?_congr _ same]
    exact get?_ofProject_of_mem validated globals (List.mem_filter.mp emitted).1
  · intro blank
    rw [outcome_resolveDefaultTarget_of_blank blank, get?_ofProject_eq_override validated]

/-- A project whose default target is found in a reserved property. -/
def configuredProject : Project where
  targets := [{ name := "Build" }, { name := "Check" }]
  properties := [
    { name := "Configuration", expandedValue := "Debug" },
    { name := "MSBuildProjectDefaultTargets", expandedValue := "Build", isReserved := true }]

/-- A document that is read as the project. -/
def configuredDocument : Value :=
  .mapping [
    (.text "targets", .list [
      .mapping [(.text "name", .text "Build")],
      .mapping [(.text "name", .text "Check")]]),
    (.text "properties", .list [
      .mapping [(.text "name", .text "Configuration"),
        (.text "expanded_value", .text "Debug")],
      .mapping [(.text "name", .text "MSBuildProjectDefaultTargets"),
        (.text "expanded_value", .text "Build"), (.text "is_reserved", .bool true)]])]

/-- Global properties that spell one name in two ways, and another one unlike the
project does. -/
def spelledGlobals : List (String × String) :=
  [("CONFIGURATION", "Test"), ("configuration", "Release"),
    ("msbuildprojectdefaulttargets", "Check;Build")]

/-- The later spelling counts in expressions and in the initial value, and the
other global property is split in place of the project's own list. -/
theorem configuredProject_follows_globals :
    Project.read configuredDocument = .valid configuredProject ∧
      (PropertyTable.ofProject configuredProject spelledGlobals).get? "Configuration" =
        some "Release" ∧
      (∃ compiled, (compile {} spelledGlobals configuredProject).outcome = .ok compiled ∧
        compiled.program.initializerLines = [initializerLine "Configuration" "Release"]) ∧
      (resolveDefaultTarget configuredProject
        (PropertyTable.ofProject configuredProject spelledGlobals).expand {}
        spelledGlobals).outcome = .ok "Check" := by
  have validated : configuredProject.Validated := ⟨configuredDocument, rfl⟩
  obtain ⟨values, _, lines, entry⟩ := globals_act_alike validated spelledGlobals {}
  have released : (PropertyTable.ofProject configuredProject spelledGlobals).get?
      "Configuration" = some "Release" := by
    rw [values]
    decide
  have compiles : (compile {} spelledGlobals configuredProject).outcome.isOk = true := by
    decide
  refine ⟨rfl, released, ?_, ?_⟩
  · cases ended : (compile {} spelledGlobals configuredProject).outcome with
    | error failure =>
      rw [ended] at compiles
      cases compiles
    | ok compiled =>
      obtain ⟨_, _, ⟨value, held, rfl⟩, noMore, single⟩ :=
        List.forall₂_cons_left_iff.mp (lines compiled ended)
      rw [List.forall₂_nil_left_iff.mp noMore] at single
      have same : value = "Release" :=
        Option.some.inj ((held "Configuration" (by decide)).symm.trans released)
      exact ⟨compiled, rfl, same ▸ single⟩
  · rw [entry rfl, values]
    decide

end RunOnce.Compile
