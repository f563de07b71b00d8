import RunOnce.Document.Fields
import RunOnce.Model.Project

/-!
# Reading models from documents

Each model reads its fields in a fixed order and accepts no others. Lists of a
project whose entries are all valid are also checked for repeated names.
-/

namespace RunOnce.Model

open RunOnce.Document
open RunOnce.Text

/-- The form of a target name, as shown to users. -/
def targetNamePattern : String :=
  "^[A-Za-z_][A-Za-z0-9_.\\-]*$"

/-- Whether a character may start a target name. -/
def isNameStart (c : Char) : Bool :=
  c.isAlpha || c == '_'

/-- Whether a character may stand inside a target name. -/
def isNamePart (c : Char) : Bool :=
  c.isAlphanum || c == '_' || c == '.' || c == '-'

/-- Whether a text is a target name. -/
def isTargetName (name : String) : Bool :=
  match name.toList with
  | [] => false
  | first :: rest => isNameStart first && rest.all isNamePart

/-- Read a target name. -/
def readTargetName (value : Value) : Checked String :=
  (readName value).andThen fun name =>
    if isTargetName name then .valid name else .issue (.patternMismatch targetNamePattern)

/-- Read a property. -/
def Property.read : Value → Checked Property :=
  readModel "Property" fun fields =>
    Property.mk <$> fields.required "name" readName
      <*> fields.optional "raw_value" readText ""
      <*> fields.optional "expanded_value" readText ""
      <*> fields.optional "is_reserved" readBool false
      <*> fields.optional "is_environment" readBool false
      <* fields.onlyKnown
        ["name", "raw_value", "expanded_value", "is_reserved", "is_environment"]

/-- Read a field of an item schema. -/
def Metadatum.read : Value → Checked Metadatum :=
  readModel "Metadatum" fun fields =>
    Metadatum.mk <$> fields.required "name" readName
      <*> fields.optional "evaluated_value" readText ""
      <* fields.onlyKnown ["name", "evaluated_value"]

/-- Read an item schema. -/
def ItemSchema.read : Value → Checked ItemSchema :=
  readModel "ItemSchema" fun fields =>
    ItemSchema.mk <$> fields.required "item_type" readName
      <*> fields.optional "metadata" (readList Metadatum.read) []
      <* fields.onlyKnown ["item_type", "metadata"]

/-- Read an assignment. -/
def Assignment.read : Value → Checked Assignment :=
  readModel "PropertyAssignment" fun fields =>
    Assignment.mk <$> fields.required "name" readName
      <*> fields.optional "value" readText ""
      <*> fields.optional "condition" readTextOrNull none
      <* fields.onlyKnown ["name", "value", "condition"]

/-- Read the field that tells the kinds of children apart. -/
def readKind (kind : String) (fields : Fields) : Checked Unit :=
  fields.optional "kind" (readLiteral [(kind, ())]) ()

/-- Read the fields of a property group. -/
def PropertyGroup.ofFields (fields : Fields) : Checked PropertyGroup :=
  readKind "property_group" fields
    *> (PropertyGroup.mk <$> fields.optional "condition" readTextOrNull none
      <*> fields.optional "properties" (readList Assignment.read) [])
    <* fields.onlyKnown ["kind", "condition", "properties"]

/-- Read a property group. -/
def PropertyGroup.read : Value → Checked PropertyGroup :=
  readModel "PropertyGroup" PropertyGroup.ofFields

/-- Read the fields of a task. -/
def Task.ofFields (fields : Fields) : Checked Task :=
  readKind "task" fields
    *> (Task.mk <$> fields.required "name" readName
      <*> fields.optional "condition" readTextOrNull none
      <*> fields.optional "parameters" readTextMapping [])
    <* fields.onlyKnown ["kind", "name", "condition", "parameters"]

/-- Read a task. -/
def Task.read : Value → Checked Task :=
  readModel "TaskInvocation" Task.ofFields

/-- The tags of the kinds of children. -/
def childTags : List String :=
  ["property_group", "task"]

/-- Read an element of a target's body, of the kind that its tag says. -/
def Child.read : Value → Checked Child
  | .mapping fields _ =>
    match Fields.get? fields "kind" with
    | none => .issue (.tagMissing "kind")
    | some (.text "property_group") =>
      (Child.group <$> readFields PropertyGroup.ofFields fields).under (.key "property_group")
    | some (.text "task") =>
      (Child.task <$> readFields Task.ofFields fields).under (.key "task")
    | some tag => .issue (.tagUnknown tag.told "kind" childTags)
  | _ => .issue .notFields

/-- Read a target. -/
def Target.read : Value → Checked Target :=
  readModel "Target" fun fields =>
    Target.mk <$> fields.required "name" readTargetName
      <*> fields.optional "condition" readTextOrNull none
      <*> fields.optional "depends_on_targets" readText ""
      <*> fields.optional "before_targets" readText ""
      <*> fields.optional "after_targets" readText ""
      <*> fields.optional "children" (readList Child.read) []
      <* fields.onlyKnown
        ["name", "condition", "depends_on_targets", "before_targets", "after_targets", "children"]

/-- Read a list whose entries have different names. -/
def readDistinct {α : Type} (read : Value → Checked α) (noun : String) (nameOf : α → String)
    (key : String → String) (value : Value) : Checked (List α) :=
  (readList read value).andThen fun entries =>
    match firstRepeated? key (entries.map nameOf) with
    | none => .valid entries
    | some name => .issue (.inconsistent ("Duplicate " ++ noun ++ " '" ++ name ++ "'"))

/-- Read a project. -/
def Project.read : Value → Checked Project :=
  readModel "ProjectModel" fun fields =>
    Project.mk <$> fields.optional "name" readTextOrNull none
      <*> fields.optional "properties"
        (readDistinct Property.read "property name" Property.name lower) []
      <*> fields.optional "item_schemas"
        (readDistinct ItemSchema.read "item type" ItemSchema.itemType id) []
      <*> fields.optional "targets"
        (readDistinct Target.read "target name" Target.name id) []
      <*> fields.optional "default_targets" readTextOrNull none
      <* fields.onlyKnown ["name", "properties", "item_schemas", "targets", "default_targets"]

end RunOnce.Model
