import RunOnce.Schema.JsonText

/-!
# The schema of project documents

Tools that write project documents can check them against a JSON Schema. The
schema of an object lists its fields in the order of declaration. The keywords
of a field stand in alphabetical order, except in a field that is itself called
`properties`.
-/

namespace RunOnce.Schema

open JsonValue

/-- A schema that accepts the values of a type. -/
def ofType (type : String) : JsonValue :=
  object [("type", .text type)]

/-- A schema that is defined elsewhere. -/
def reference (definition : String) : JsonValue :=
  object [("$ref", .text ("#/$defs/" ++ definition))]

/-- A name, which is not empty. -/
def nameField (title description : String) : JsonValue :=
  object [("description", .text description), ("minLength", number 1), ("title", .text title),
    ("type", .text "string")]

/-- A text that may be left out. -/
def textField (title description : String) : JsonValue :=
  object [("default", .text ""), ("description", .text description), ("title", .text title),
    ("type", .text "string")]

/-- A truth value that is false when it is left out. -/
def truthField (title description : String) : JsonValue :=
  object [("default", bool false), ("description", .text description), ("title", .text title),
    ("type", .text "boolean")]

/-- A text or null. -/
def optionalField (title description : String) : JsonValue :=
  object [("anyOf", array [ofType "string", ofType "null"]), ("default", null),
    ("description", .text description), ("title", .text title)]

/-- The tag of a kind of child. -/
def tagField (tag : String) : JsonValue :=
  object [("const", .text tag), ("default", .text tag), ("title", .text "Kind"),
    ("type", .text "string")]

/-- A list. -/
def listField (title description : String) (items : JsonValue) : JsonValue :=
  object [("description", .text description), ("items", items), ("title", .text title),
    ("type", .text "array")]

/-- The list in a field that is called `properties`. -/
def propertiesField (description : String) (items : JsonValue) : JsonValue :=
  object [("type", .text "array"), ("items", items), ("description", .text description),
    ("title", .text "Properties")]

/-- The keywords of an object without unknown fields. -/
def objectKeywords (title : String) (description : List String)
    (fields : List (String × JsonValue)) (required : List String) : List (String × JsonValue) :=
  [("additionalProperties", bool false), ("description", .text ("\n".intercalate description)),
    ("properties", object fields)] ++
  (if required.isEmpty then [] else [("required", array (required.map .text))]) ++
  [("title", .text title), ("type", .text "object")]

/-- The definition of an object, under its title. -/
def definition (title : String) (description : List String) (fields : List (String × JsonValue))
    (required : List String) : String × JsonValue :=
  (title, object (objectKeywords title description fields required))

/-- Record types. -/
def itemSchemaDefinition : String × JsonValue :=
  definition "ItemSchema"
    ["Record type declared for an item type.",
      "",
      "Attributes:",
      "    item_type: Item type name, unique within the project.",
      "    metadata: Ordered metadata fields with their evaluated defaults.",
      "",
      "Example:",
      "    >>> schema = ItemSchema(",
      "    ...     item_type=\"Compile\",",
      "    ...     metadata=[Metadatum(name=\"Optimize\", evaluated_value=\"false\")],",
      "    ... )"]
    [("item_type", nameField "Item Type" "Item type name"),
      ("metadata",
        listField "Metadata" "Ordered metadata declarations" (reference "Metadatum"))]
    ["item_type"]

/-- Fields of record types. -/
def metadatumDefinition : String × JsonValue :=
  definition "Metadatum" ["One metadata field of an item schema."]
    [("name", nameField "Name" "Metadata name"),
      ("evaluated_value", textField "Evaluated Value" "Evaluated default value")]
    ["name"]

/-- Properties of the project. -/
def propertyDefinition : String × JsonValue :=
  definition "Property"
    ["A single evaluated project property.",
      "",
      "Attributes:",
      "    name: Property name, unique within the project.",
      "    raw_value: Value as written in the build description.",
      "    expanded_value: Value after macro expansion by the evaluator.",
      "    is_reserved: True for engine-reserved properties (never emitted).",
      "    is_environment: True for properties sourced from the environment",
      "        (never emitted).",
      "",
      "Example:",
      "    >>> prop = Property(",
      "    ...     name=\"OutputPath\",",
      "    ...     raw_value=\"bin\\\\$(Configuration)\",",
      "    ...     expanded_value=\"bin\\\\Debug\",",
      "    ... )"]
    [("name", nameField "Name" "Property name"),
      ("raw_value", textField "Raw Value" "Unexpanded property value"),
      ("expanded_value", textField "Expanded Value" "Property value after expansion"),
      ("is_reserved", truthField "Is Reserved" "Engine-reserved property"),
      ("is_environment",
        truthField "Is Environment" "Property derived from an environment variable")]
    ["name"]

/-- Assignments in targets. -/
def assignmentDefinition : String × JsonValue :=
  definition "PropertyAssignment"
    ["A property assignment inside a target's property group.",
      "",
      "Attributes:",
      "    name: Name of the assigned property.",
      "    value: Raw (unexpanded) value.",
      "    condition: Optional raw condition guarding this assignment only."]
    [("name", nameField "Name" "Assigned property name"),
      ("value", textField "Value" "Raw assigned value"),
      ("condition", optionalField "Condition" "Raw assignment condition")]
    ["name"]

/-- Groups of assignments. -/
def groupDefinition : String × JsonValue :=
  definition "PropertyGroup" ["A conditional group of property assignments inside a target."]
    [("kind", tagField "property_group"),
      ("condition", optionalField "Condition" "Raw group condition"),
      ("properties",
        propertiesField "Assignments in declaration order" (reference "PropertyAssignment"))]
    []

/-- The children of a target, told apart by their tags. -/
def childItems : JsonValue :=
  object
    [("discriminator",
        object
          [("mapping",
              object
                [("property_group", .text "#/$defs/PropertyGroup"),
                  ("task", .text "#/$defs/TaskInvocation")]),
            ("propertyName", .text "kind")]),
      ("oneOf", array [reference "PropertyGroup", reference "TaskInvocation"])]

/-- Targets. -/
def targetDefinition : String × JsonValue :=
  definition "Target"
    ["A named, conditionally-skippable, run-once unit of build work.",
      "",
      "Attributes:",
      "    name: Target name, unique within the project.",
      "    condition: Optional raw skip condition.",
      "    depends_on_targets: Raw semicolon-joined DependsOnTargets.",
      "    before_targets: Raw semicolon-joined BeforeTargets.",
      "    after_targets: Raw semicolon-joined AfterTargets.",
      "    children: Property groups and task invocations in declaration order.",
      "",
      "Example:",
      "    >>> target = Target(",
      "    ...     name=\"Build\",",
      "    ...     depends_on_targets=\"Compile\",",
      "    ...     children=[TaskInvocation(name=\"Message\", parameters=\x7b\"Text\": \"done\"\x7d)],",
      "    ... )"]
    [("name",
        object
          [("description", .text "Target name"), ("minLength", number 1),
            ("pattern", .text "^[A-Za-z_][A-Za-z0-9_.\\-]*$"), ("title", .text "Name"),
            ("type", .text "string")]),
      ("condition", optionalField "Condition" "Raw skip condition"),
      ("depends_on_targets", textField "Depends On Targets" "Raw DependsOnTargets"),
      ("before_targets", textField "Before Targets" "Raw BeforeTargets"),
      ("after_targets", textField "After Targets" "Raw AfterTargets"),
      ("children",
        listField "Children" "Property groups and tasks in declaration order" childItems)]
    ["name"]

/-- Tasks in targets. -/
def taskDefinition : String × JsonValue :=
  definition "TaskInvocation"
    ["A single task call inside a target.",
      "",
      "Attributes:",
      "    name: Task name (becomes the called procedure name).",
      "    condition: Optional raw condition guarding the call.",
      "    parameters: Parameter name to raw value, in declaration order.",
      "",
      "Example:",
      "    >>> task = TaskInvocation(name=\"Csc\", parameters=\x7b\"Sources\": \"a.cs\"\x7d)"]
    [("kind", tagField "task"),
      ("name", nameField "Name" "Task name"),
      ("condition", optionalField "Condition" "Raw task condition"),
      ("parameters",
        object
          [("additionalProperties", ofType "string"),
            ("description", .text "Raw parameter values in declaration order"),
            ("title", .text "Parameters"), ("type", .text "object")])]
    ["name"]

/-- The schema of project documents. -/
def projectSchema : JsonValue :=
  object <|
    [("$defs",
        object
          [itemSchemaDefinition, metadatumDefinition, propertyDefinition, assignmentDefinition,
            groupDefinition, targetDefinition, taskDefinition])] ++
    objectKeywords "ProjectModel"
      ["Root model for an evaluated build project.",
        "",
        "Attributes:",
        "    name: Optional project name (informational only).",
        "    properties: Evaluated properties in declaration order.",
        "    item_schemas: Item record types in declaration order.",
        "    targets: Targets in declaration order.",
        "    default_targets: Raw semicolon-joined default targets. When absent,",
        "        the compiler reads the configured default-target property.",
        "",
        "Example:",
        "    >>> project = ProjectModel(",
        "    ...     targets=[Target(name=\"Build\")],",
        "    ...     default_targets=\"Build\",",
        "    ... )",
        "",
        "    >>> project = ProjectModel.from_yaml(\"project.yaml\")",
        "    >>> [t.name for t in project.targets]",
        "    ['Build', 'Compile']"]
      [("name", optionalField "Name" "Project name"),
        ("properties",
          propertiesField "Evaluated properties in declaration order" (reference "Property")),
        ("item_schemas",
          listField "Item Schemas" "Item schemas in declaration order" (reference "ItemSchema")),
        ("targets", listField "Targets" "Targets in declaration order" (reference "Target")),
        ("default_targets",
          optionalField "Default Targets" "Raw semicolon-joined default targets")]
      [] ++
    [("$schema", .text "https://json-schema.org/draft/2020-12/schema"),
      ("$id", .text "https://flatbuild.dev/schemas/project-model.schema.json")]

/-- The text of the schema. -/
def projectSchemaText : String :=
  projectSchema.render 0

end RunOnce.Schema
