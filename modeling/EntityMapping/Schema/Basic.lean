import EntityMapping.Schema.TypeName

/-! # Schemas

What is known of a database: its tables and views with their columns, foreign keys, indexes and
unique constraints, and the names of the classes that they are mapped to.
-/

namespace EntityMapping

inductive ValueGenerated where
  | none
  | onAdd
  | onAddOrUpdate
  | onUpdate
  deriving DecidableEq, Repr

inductive Cardinality where
  | one
  | many
  deriving DecidableEq, Repr

structure Property where
  propertyName : String
  columnName : String
  valueType : ValueType := .other
  storeType : Option String := none
  isNullable : Bool := false
  size : Option Int32 := none
  default : Option String := none
  computedSql : Option String := none
  isPrimaryKey : Bool := false
  isRowVersion : Bool := false
  isHierarchyId : Bool := false
  valueGenerated : ValueGenerated := .none
  deriving DecidableEq, Repr

/-- A foreign key, seen from the dependent entity. -/
structure Relationship where
  /-- Navigation on the dependent entity. -/
  propertyName : String
  /-- Class name of the principal entity. -/
  primaryEntity : String
  /-- Navigation on the principal entity. -/
  primaryPropertyName : String
  primaryCardinality : Cardinality
  isOneToOne : Bool := false
  properties : List String := []
  relationshipName : Option String := none
  isMapped : Bool := true
  deriving DecidableEq, Repr

structure Index where
  name : String
  columns : List String := []
  isUnique : Bool := false
  filter : Option String := none
  deriving DecidableEq, Repr

structure UniqueConstraint where
  name : String
  columns : List String := []
  deriving DecidableEq, Repr

/-- A table or view and the classes that belong to it. -/
structure Entity where
  entityClass : String
  entityNamespace : String := ""
  mappingClass : String
  mappingNamespace : String := ""
  tableName : String
  tableSchema : Option String := none
  isView : Bool := false
  properties : List Property := []
  relationships : List Relationship := []
  indexes : List Index := []
  uniqueConstraints : List UniqueConstraint := []
  deriving DecidableEq, Repr

structure Schema where
  entities : List Entity := []
  deriving DecidableEq, Repr

namespace Entity

def property? (e : Entity) (name : String) : Option Property :=
  e.properties.find? (·.propertyName == name)

/-- The first property with that column, or failing it the first one of that name. -/
def propertyForColumn? (e : Entity) (column : String) : Option Property :=
  (e.properties.find? (·.columnName == column)).or (e.property? column)

end Entity

namespace Schema

def entity? (s : Schema) (className : String) : Option Entity :=
  s.entities.find? (·.entityClass == className)

/-- The entities whose class is listed, in the order of the schema; an empty list selects all. -/
def select (s : Schema) (classNames : List String) : List Entity :=
  if classNames.isEmpty then s.entities
  else s.entities.filter fun e => classNames.contains e.entityClass

end Schema

end EntityMapping
