import RunOnce.Document.Value
import RunOnce.Model.Project

/-!
# Writing models as documents

The normal form of a model: a document with all fields written out, in the
order of their declaration.
-/

namespace RunOnce.Model

open RunOnce.Document

/-- A text or null. -/
def optionalText : Option String → Value
  | none => .null
  | some characters => .text characters

/-- The document of a property. -/
def Property.document (property : Property) : Value :=
  .ofFields [("name", .text property.name), ("raw_value", .text property.rawValue),
    ("expanded_value", .text property.expandedValue), ("is_reserved", .bool property.isReserved),
    ("is_environment", .bool property.isEnvironment)]

/-- The document of a field of an item schema. -/
def Metadatum.document (field : Metadatum) : Value :=
  .ofFields [("name", .text field.name), ("evaluated_value", .text field.evaluatedValue)]

/-- The document of an item schema. -/
def ItemSchema.document (schema : ItemSchema) : Value :=
  .ofFields [("item_type", .text schema.itemType),
    ("metadata", .list (schema.metadata.map Metadatum.document))]

/-- The document of an assignment. -/
def Assignment.document (assignment : Assignment) : Value :=
  .ofFields [("name", .text assignment.name), ("value", .text assignment.value),
    ("condition", optionalText assignment.condition)]

/-- The document of a property group. -/
def PropertyGroup.document (group : PropertyGroup) : Value :=
  .ofFields [("kind", .text "property_group"), ("condition", optionalText group.condition),
    ("properties", .list (group.assignments.map Assignment.document))]

/-- The document of a task. -/
def Task.document (task : Task) : Value :=
  .ofFields [("kind", .text "task"), ("name", .text task.name),
    ("condition", optionalText task.condition),
    ("parameters", .ofFields (task.parameters.map fun entry => (entry.1, .text entry.2)))]

/-- The document of an element of a target's body. -/
def Child.document : Child → Value
  | group assignments => assignments.document
  | task call => call.document

/-- The document of a target. -/
def Target.document (target : Target) : Value :=
  .ofFields [("name", .text target.name), ("condition", optionalText target.condition),
    ("depends_on_targets", .text target.dependsOnTargets),
    ("before_targets", .text target.beforeTargets),
    ("after_targets", .text target.afterTargets),
    ("children", .list (target.children.map Child.document))]

/-- The document of a project. -/
def Project.document (project : Project) : Value :=
  .ofFields [("name", optionalText project.name),
    ("properties", .list (project.properties.map Property.document)),
    ("item_schemas", .list (project.itemSchemas.map ItemSchema.document)),
    ("targets", .list (project.targets.map Target.document)),
    ("default_targets", optionalText project.defaultTargets)]

end RunOnce.Model
