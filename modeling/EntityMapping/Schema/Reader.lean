import EntityMapping.Document.Record
import EntityMapping.Schema.Printer

/-! # Schema documents, read

The records of a schema document. Names have to be given; flags, lists and optional texts may be
left out. The name of a type is replaced by its category.
-/

namespace EntityMapping

open Document

def Property.shape : Shape Property where
  title := "Property"
  blank := { propertyName := "", columnName := "" }
  fields :=
    [.mandatory "property_name" readString fun v p => { p with propertyName := v },
     .mandatory "column_name" readString fun v p => { p with columnName := v },
     .optional "system_type" readString fun v p => { p with valueType := .ofTypeName v },
     .optional "store_type" (readNullable readString) fun v p => { p with storeType := v },
     .optional "is_nullable" readBool fun v p => { p with isNullable := v },
     .optional "size" (readNullable readInt32) fun v p => { p with size := v },
     .optional "default" (readNullable readString) fun v p => { p with default := v },
     .optional "computed_sql" (readNullable readString) fun v p => { p with computedSql := v },
     .optional "is_primary_key" readBool fun v p => { p with isPrimaryKey := v },
     .optional "is_row_version" readBool fun v p => { p with isRowVersion := v },
     .optional "is_hierarchy_id" readBool fun v p => { p with isHierarchyId := v },
     .optional "value_generated" (readVariant ValueGenerated.all ValueGenerated.name)
       fun v p => { p with valueGenerated := v }]

def Relationship.shape : Shape Relationship where
  title := "Relationship"
  blank :=
    { propertyName := "", primaryEntity := "", primaryPropertyName := ""
      primaryCardinality := .one }
  fields :=
    [.mandatory "property_name" readString fun v r => { r with propertyName := v },
     .mandatory "primary_entity" readString fun v r => { r with primaryEntity := v },
     .mandatory "primary_property_name" readString fun v r => { r with primaryPropertyName := v },
     .mandatory "primary_cardinality" (readVariant Cardinality.all Cardinality.name)
       fun v r => { r with primaryCardinality := v },
     .optional "is_one_to_one" readBool fun v r => { r with isOneToOne := v },
     .optional "properties" (readList readString) fun v r => { r with properties := v },
     .optional "relationship_name" (readNullable readString)
       fun v r => { r with relationshipName := v },
     .optional "is_mapped" readBool fun v r => { r with isMapped := v }]

def Index.shape : Shape Index where
  title := "Index"
  blank := { name := "" }
  fields :=
    [.mandatory "name" readString fun v i => { i with name := v },
     .optional "columns" (readList readString) fun v i => { i with columns := v },
     .optional "is_unique" readBool fun v i => { i with isUnique := v },
     .optional "filter" (readNullable readString) fun v i => { i with filter := v }]

def UniqueConstraint.shape : Shape UniqueConstraint where
  title := "UniqueConstraint"
  blank := { name := "" }
  fields :=
    [.mandatory "name" readString fun v c => { c with name := v },
     .optional "columns" (readList readString) fun v c => { c with columns := v }]

def Entity.shape : Shape Entity where
  title := "Entity"
  blank := { entityClass := "", mappingClass := "", tableName := "" }
  fields :=
    [.mandatory "entity_class" readString fun v e => { e with entityClass := v },
     .optional "entity_namespace" readString fun v e => { e with entityNamespace := v },
     .mandatory "mapping_class" readString fun v e => { e with mappingClass := v },
     .optional "mapping_namespace" readString fun v e => { e with mappingNamespace := v },
     .mandatory "table_name" readString fun v e => { e with tableName := v },
     .optional "table_schema" (readNullable readString) fun v e => { e with tableSchema := v },
     .optional "is_view" readBool fun v e => { e with isView := v },
     .optional "properties" (readList Property.shape.read) fun v e => { e with properties := v },
     .optional "relationships" (readList Relationship.shape.read)
       fun v e => { e with relationships := v },
     .optional "indexes" (readList Index.shape.read) fun v e => { e with indexes := v },
     .optional "unique_constraints" (readList UniqueConstraint.shape.read)
       fun v e => { e with uniqueConstraints := v }]

def Schema.shape : Shape Schema where
  title := "Schema"
  blank := {}
  fields := [.optional "entities" (readList Entity.shape.read) fun v s => { s with entities := v }]

def Schema.parse (text : String) : Except Fault Schema := document Schema.shape.read text

end EntityMapping
