/-!
# Names in data

Data gives cells by name. Besides its columns a row bears some names of its own, which data may
give as well: most are passed over, some cannot be given, and some are of use to the service, which
misses them afterwards.

* `TableName.member`: what a name stands for in the rows of a table.
-/

namespace Disposition

/-- The two tables of the service. -/
inductive TableName
  | destinations | rules
  deriving DecidableEq, Repr

/-- What a name stands for in a row. -/
inductive Member
  /-- A column that can be filled and changed. -/
  | column
  /-- A column that is filled with the row and stays. -/
  | identity
  /-- A name that a row bears and nothing is kept of. -/
  | idle
  /-- A name that a row bears and that cannot be given. -/
  | fixed
  /-- The name that the service asks a row for its content by. -/
  | content
  /-- The name of the state of a row that is in use. -/
  | state
  /-- No row of the table bears the name. -/
  | unknown
  deriving DecidableEq, Repr

namespace TableName

/-- The name of a table in the database. -/
def name : TableName → String
  | destinations => "return_destinations"
  | rules => "routing_rules"

/-- The name of the rows of a table in messages. -/
def rowName : TableName → String
  | destinations => "ReturnDestinationRow"
  | rules => "RoutingRuleRow"

/-- The columns of a table apart from those of every table. -/
def columns : TableName → List String
  | .destinations =>
    ["name", "address_line1", "address_line2", "city", "state", "postal_code", "country", "phone",
      "is_default"]
  | .rules =>
    ["name", "priority", "is_active", "condition_type", "condition_value", "destination_id"]

/-- The columns of flags. -/
def flags : TableName → List String
  | .destinations => ["is_default"]
  | .rules => ["is_active"]

/-- The columns of every table that only the data of a new row can fill. -/
def identity : List String :=
  ["id", "shop", "created_at"]

/-- The name under which the rows of a table are made records. -/
def recordName : TableName → String
  | .destinations => "to_destination"
  | .rules => "to_routing_rule"

/-- The names that rows of both tables bear and nothing is kept of. -/
def idleNames : List String :=
  ["metadata", "registry", "mro", "__tablename__", "__table__", "__mapper__", "_sa_class_manager",
    "_sa_registry", "_is_protocol", "__annotations__", "__base__", "__bases__", "__basicsize__",
    "__call__", "__class_getitem__", "__delattr__", "__dictoffset__", "__dir__", "__doc__",
    "__eq__", "__flags__", "__format__", "__ge__", "__getattribute__", "__getstate__", "__gt__",
    "__hash__", "__init__", "__init_subclass__", "__instancecheck__", "__itemsize__", "__le__",
    "__lt__", "__module__", "__mro__", "__name__", "__ne__", "__new__", "__or__",
    "__orig_bases__", "__parameters__", "__prepare__", "__qualname__", "__reduce__",
    "__reduce_ex__", "__repr__", "__ror__", "__setattr__", "__sizeof__", "__slots__", "__str__",
    "__subclasscheck__", "__subclasses__", "__subclasshook__", "__text_signature__",
    "__weakrefoffset__"]

/-- The names that rows of both tables bear and that cannot be given. -/
def fixedNames : List String :=
  ["__class__", "__dict__", "__weakref__"]

/-- What a name stands for in the rows of a table. -/
def member (table : TableName) (name : String) : Member :=
  if table.columns.contains name || name = "updated_at" then .column
  else if identity.contains name then .identity
  else if name = table.recordName || idleNames.contains name then .idle
  else if fixedNames.contains name then .fixed
  else if name = "to_dict" then .content
  else if name = "_sa_instance_state" then .state
  else .unknown

end TableName

end Disposition
