/-!
# Properties and item schemas

The evaluated data of a project: named property values, and the record types
declared for its items.
-/

namespace RunOnce.Model

/-- An evaluated project property. -/
structure Property where
  name : String
  /-- The value as written. -/
  rawValue : String := ""
  /-- The value after evaluation. -/
  expandedValue : String := ""
  isReserved : Bool := false
  isEnvironment : Bool := false
deriving DecidableEq, Repr

/-- Reserved and environment properties get no initializer. -/
def Property.isEmitted (property : Property) : Bool :=
  !property.isReserved && !property.isEnvironment

/-- A field of an item schema, with its default. -/
structure Metadatum where
  name : String
  evaluatedValue : String := ""
deriving DecidableEq, Repr

/-- The record type of an item type. -/
structure ItemSchema where
  itemType : String
  metadata : List Metadatum := []
deriving DecidableEq, Repr

end RunOnce.Model
