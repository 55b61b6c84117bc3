import EntityMapping.Schema.Basic

/-! # Mapping plans

A plan says how one entity is mapped, without regard to the language it will be written in: the
names of its classes, a sequence of statements, and the constants that name its table and columns.
-/

namespace EntityMapping

inductive Directive where
  | rowVersion
  | required (value : Bool)
  | numberToBytesConversion
  | columnType (storeType : String)
  | columnName (name : String)
  | unicode (value : Bool)
  | maxLength (length : Int32)
  | defaultValueSql (sql : String)
  | computedColumnSql (sql : String)
  | valueGeneratedOnAdd
  | valueGeneratedOnAddOrUpdate
  | valueGeneratedOnUpdate
  deriving DecidableEq, Repr

structure RelationshipBinding where
  navigation : String
  cardinality : Cardinality
  principalNavigation : String
  foreignKey : List String
  oneToOne : Bool := false
  constraintName : Option String := none
  deriving DecidableEq, Repr

structure IndexBinding where
  columns : List String
  name : Option String := none
  filter : Option String := none
  unique : Bool := false
  deriving DecidableEq, Repr

inductive Statement where
  | table (name : String) (schema : Option String)
  | view (name : String) (schema : Option String)
  | noKey
  | key (columns : List String)
  | property (property : String) (directives : List Directive)
  | relationship (binding : RelationshipBinding)
  | index (binding : IndexBinding)
  | alternateKey (columns : List String) (name : String)
  deriving DecidableEq, Repr

inductive Section where
  | table
  | key
  | properties
  | relationships
  | indexes
  | alternateKeys
  deriving DecidableEq, Repr

namespace Section

def title : Section → String
  | table => "table"
  | key => "key"
  | properties => "properties"
  | relationships => "relationships"
  | indexes => "indexes"
  | alternateKeys => "alternate keys"

end Section

namespace Statement

def group : Statement → Section
  | table .. | view .. => .table
  | noKey | key .. => .key
  | property .. => .properties
  | relationship .. => .relationships
  | index .. => .indexes
  | alternateKey .. => .alternateKeys

def convertsToBytes : Statement → Bool
  | property _ directives => directives.contains .numberToBytesConversion
  | _ => false

end Statement

structure TableConstants where
  schema : Option String := none
  name : String
  /-- Property identifiers with their column names, in the order of declaration. -/
  columns : List (String × String)
  deriving DecidableEq, Repr

structure MappingPlan where
  entityClass : String
  entityNamespace : String := ""
  mappingClass : String
  mappingNamespace : String := ""
  statements : List Statement
  constants : Option TableConstants := none
  deriving DecidableEq, Repr

namespace MappingPlan

def hasRowVersion (plan : MappingPlan) : Bool := plan.statements.any (·.convertsToBytes)

end MappingPlan

end EntityMapping
