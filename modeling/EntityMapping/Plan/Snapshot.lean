import EntityMapping.Json.Basic
import EntityMapping.Plan.Basic
import EntityMapping.Schema.Printer

/-! # Snapshots of plans

A plan as a JSON value, in which statements and directives say their kind, and the reading of such
values. Optional fields may be missing, and unknown ones are passed over.
-/

namespace EntityMapping

open Json (ofOption ofList strings)

namespace Directive

def kind : Directive → String
  | rowVersion => "row_version"
  | required _ => "required"
  | numberToBytesConversion => "number_to_bytes_conversion"
  | columnType _ => "column_type"
  | columnName _ => "column_name"
  | unicode _ => "unicode"
  | maxLength _ => "max_length"
  | defaultValueSql _ => "default_value_sql"
  | computedColumnSql _ => "computed_column_sql"
  | valueGeneratedOnAdd => "value_generated_on_add"
  | valueGeneratedOnAddOrUpdate => "value_generated_on_add_or_update"
  | valueGeneratedOnUpdate => "value_generated_on_update"

def value? : Directive → Option Json
  | required value | unicode value => some (.bool value)
  | columnType s | columnName s | defaultValueSql s | computedColumnSql s => some (.string s)
  | maxLength length => some (.int length.toInt)
  | rowVersion | numberToBytesConversion | valueGeneratedOnAdd | valueGeneratedOnAddOrUpdate
  | valueGeneratedOnUpdate => none

def toJson (d : Directive) : Json :=
  match d.value? with
  | none => .object [("kind", .string d.kind)]
  | some value => .object [("kind", .string d.kind), ("value", value)]

end Directive

namespace Statement

def kind : Statement → String
  | table .. => "table"
  | view .. => "view"
  | noKey => "no_key"
  | key .. => "key"
  | property .. => "property"
  | relationship .. => "relationship"
  | index .. => "index"
  | alternateKey .. => "alternate_key"

def fields : Statement → List (String × Json)
  | table name schema | view name schema =>
    [("name", .string name), ("schema", ofOption .string schema)]
  | noKey => []
  | key columns => [("columns", strings columns)]
  | property name directives =>
    [("property", .string name), ("directives", ofList Directive.toJson directives)]
  | relationship r =>
    [("navigation", .string r.navigation),
     ("cardinality", .string r.cardinality.name),
     ("principal_navigation", .string r.principalNavigation),
     ("foreign_key", strings r.foreignKey),
     ("one_to_one", .bool r.oneToOne),
     ("constraint_name", ofOption .string r.constraintName)]
  | index i =>
    [("columns", strings i.columns),
     ("name", ofOption .string i.name),
     ("filter", ofOption .string i.filter),
     ("unique", .bool i.unique)]
  | alternateKey columns name => [("columns", strings columns), ("name", .string name)]

def toJson (s : Statement) : Json := .object (("kind", .string s.kind) :: s.fields)

end Statement

def TableConstants.toJson (c : TableConstants) : Json :=
  .object
    [("schema", ofOption .string c.schema),
     ("name", .string c.name),
     ("columns", ofList (fun column => strings [column.1, column.2]) c.columns)]

namespace MappingPlan

def toJson (plan : MappingPlan) : Json :=
  .object
    [("entity_class", .string plan.entityClass),
     ("entity_namespace", .string plan.entityNamespace),
     ("mapping_class", .string plan.mappingClass),
     ("mapping_namespace", .string plan.mappingNamespace),
     ("statements", ofList Statement.toJson plan.statements),
     ("constants", ofOption TableConstants.toJson plan.constants)]

def snapshot (plan : MappingPlan) : String := plan.toJson.pretty ++ "\n"

end MappingPlan

namespace Json

def string? : Json → Option String
  | string s => some s
  | _ => none

def bool? : Json → Option Bool
  | bool b => some b
  | _ => none

def int32? : Json → Option Int32
  | int n => if (Int32.ofInt n).toInt = n then some (Int32.ofInt n) else none
  | _ => none

def list? {α : Type} (read : Json → Option α) : Json → Option (List α)
  | array elements => elements.mapM read
  | _ => none

def nullable? {α : Type} (read : Json → Option α) : Json → Option (Option α)
  | null => some none
  | v => (read v).map some

/-- A member read by `read`; the object must have it. -/
def field? {α : Type} (read : Json → Option α) (name : String) (v : Json) : Option α :=
  (v.member? name).bind read

/-- A member read by `read`, or a default where the object has none. -/
def fieldOr? {α : Type} (read : Json → Option α) (name : String) (default : α) (v : Json) :
    Option α :=
  match v.member? name with
  | none => some default
  | some w => read w

def pair? : Json → Option (String × String)
  | array [string a, string b] => some (a, b)
  | _ => none

def cardinality? (v : Json) : Option Cardinality :=
  v.string?.bind fun name => Cardinality.all.find? (·.name == name)

end Json

open Json (field? fieldOr? string? bool? list? nullable? pair? int32? cardinality?)

def Directive.ofJson? (v : Json) : Option Directive := do
  match ← field? string? "kind" v with
  | "row_version" => some .rowVersion
  | "required" => (field? bool? "value" v).map .required
  | "number_to_bytes_conversion" => some .numberToBytesConversion
  | "column_type" => (field? string? "value" v).map .columnType
  | "column_name" => (field? string? "value" v).map .columnName
  | "unicode" => (field? bool? "value" v).map .unicode
  | "max_length" => (field? int32? "value" v).map .maxLength
  | "default_value_sql" => (field? string? "value" v).map .defaultValueSql
  | "computed_column_sql" => (field? string? "value" v).map .computedColumnSql
  | "value_generated_on_add" => some .valueGeneratedOnAdd
  | "value_generated_on_add_or_update" => some .valueGeneratedOnAddOrUpdate
  | "value_generated_on_update" => some .valueGeneratedOnUpdate
  | _ => none

def Json.optionalText? (name : String) (v : Json) : Option (Option String) :=
  fieldOr? (nullable? string?) name none v

def Statement.ofJson? (v : Json) : Option Statement := do
  match ← field? string? "kind" v with
  | "table" => some (.table (← field? string? "name" v) (← v.optionalText? "schema"))
  | "view" => some (.view (← field? string? "name" v) (← v.optionalText? "schema"))
  | "no_key" => some .noKey
  | "key" => some (.key (← field? (list? string?) "columns" v))
  | "property" =>
    some (.property (← field? string? "property" v)
      (← field? (list? Directive.ofJson?) "directives" v))
  | "relationship" =>
    some (.relationship {
      navigation := ← field? string? "navigation" v
      cardinality := ← field? cardinality? "cardinality" v
      principalNavigation := ← field? string? "principal_navigation" v
      foreignKey := ← field? (list? string?) "foreign_key" v
      oneToOne := ← fieldOr? bool? "one_to_one" false v
      constraintName := ← v.optionalText? "constraint_name" })
  | "index" =>
    some (.index {
      columns := ← field? (list? string?) "columns" v
      name := ← v.optionalText? "name"
      filter := ← v.optionalText? "filter"
      unique := ← fieldOr? bool? "unique" false v })
  | "alternate_key" =>
    some (.alternateKey (← field? (list? string?) "columns" v) (← field? string? "name" v))
  | _ => none

def TableConstants.ofJson? (v : Json) : Option TableConstants := do
  some {
    schema := ← v.optionalText? "schema"
    name := ← field? string? "name" v
    columns := ← field? (list? pair?) "columns" v }

def MappingPlan.ofJson? (v : Json) : Option MappingPlan := do
  some {
    entityClass := ← field? string? "entity_class" v
    entityNamespace := ← fieldOr? string? "entity_namespace" "" v
    mappingClass := ← field? string? "mapping_class" v
    mappingNamespace := ← fieldOr? string? "mapping_namespace" "" v
    statements := ← field? (list? Statement.ofJson?) "statements" v
    constants := ← fieldOr? (nullable? TableConstants.ofJson?) "constants" none v }

end EntityMapping
