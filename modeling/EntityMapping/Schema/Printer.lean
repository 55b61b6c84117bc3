import EntityMapping.Json.Basic
import EntityMapping.Schema.Basic

/-! # Schema documents, written

Every field is written, in the order of declaration, with the category of a property in place of
its type name.
-/

namespace EntityMapping

namespace ValueGenerated

def name : ValueGenerated → String
  | none => "None"
  | onAdd => "OnAdd"
  | onAddOrUpdate => "OnAddOrUpdate"
  | onUpdate => "OnUpdate"

def all : List ValueGenerated := [none, onAdd, onAddOrUpdate, onUpdate]

end ValueGenerated

namespace Cardinality

def name : Cardinality → String
  | one => "One"
  | many => "Many"

def all : List Cardinality := [one, many]

end Cardinality

open Json (ofOption ofList strings)

def Property.toJson (p : Property) : Json :=
  .object
    [("property_name", .string p.propertyName),
     ("column_name", .string p.columnName),
     ("system_type", .string p.valueType.name),
     ("store_type", ofOption .string p.storeType),
     ("is_nullable", .bool p.isNullable),
     ("size", ofOption (fun n => .int n.toInt) p.size),
     ("default", ofOption .string p.default),
     ("computed_sql", ofOption .string p.computedSql),
     ("is_primary_key", .bool p.isPrimaryKey),
     ("is_row_version", .bool p.isRowVersion),
     ("is_hierarchy_id", .bool p.isHierarchyId),
     ("value_generated", .string p.valueGenerated.name)]

def Relationship.toJson (r : Relationship) : Json :=
  .object
    [("property_name", .string r.propertyName),
     ("primary_entity", .string r.primaryEntity),
     ("primary_property_name", .string r.primaryPropertyName),
     ("primary_cardinality", .string r.primaryCardinality.name),
     ("is_one_to_one", .bool r.isOneToOne),
     ("properties", strings r.properties),
     ("relationship_name", ofOption .string r.relationshipName),
     ("is_mapped", .bool r.isMapped)]

def Index.toJson (i : Index) : Json :=
  .object
    [("name", .string i.name),
     ("columns", strings i.columns),
     ("is_unique", .bool i.isUnique),
     ("filter", ofOption .string i.filter)]

def UniqueConstraint.toJson (c : UniqueConstraint) : Json :=
  .object [("name", .string c.name), ("columns", strings c.columns)]

def Entity.toJson (e : Entity) : Json :=
  .object
    [("entity_class", .string e.entityClass),
     ("entity_namespace", .string e.entityNamespace),
     ("mapping_class", .string e.mappingClass),
     ("mapping_namespace", .string e.mappingNamespace),
     ("table_name", .string e.tableName),
     ("table_schema", ofOption .string e.tableSchema),
     ("is_view", .bool e.isView),
     ("properties", ofList Property.toJson e.properties),
     ("relationships", ofList Relationship.toJson e.relationships),
     ("indexes", ofList Index.toJson e.indexes),
     ("unique_constraints", ofList UniqueConstraint.toJson e.uniqueConstraints)]

def Schema.toJson (s : Schema) : Json :=
  .object [("entities", ofList Entity.toJson s.entities)]

end EntityMapping
