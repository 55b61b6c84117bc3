import EntityMapping.Naming.Policy
import EntityMapping.Plan.Basic
import EntityMapping.Plan.Defaults

/-! # Plans of entities

The plan of an entity has a statement for each thing that the conventions of the mapper do not
settle already. An entity whose metadata contradict themselves has no plan.
-/

namespace EntityMapping

open Inflection

inductive RelationshipLabel where
  | named (name : String)
  | between (navigation principal : String)
  deriving DecidableEq, Repr

namespace RelationshipLabel

def of (r : Relationship) : RelationshipLabel :=
  match r.relationshipName with
  | none => between r.propertyName r.primaryEntity
  | some name => if name.isEmpty then between r.propertyName r.primaryEntity else named name

def text : RelationshipLabel → String
  | named name => "'" ++ name ++ "'"
  | between navigation principal => "'" ++ navigation ++ "' -> " ++ principal

end RelationshipLabel

/-- The two kinds of metadata that list columns. -/
inductive ColumnList where
  | index
  | uniqueConstraint
  deriving DecidableEq, Repr

namespace ColumnList

def text : ColumnList → String
  | index => "index"
  | uniqueConstraint => "unique constraint"

end ColumnList

inductive MetadataFault where
  | duplicateProperty (name : String)
  | noForeignKey (label : RelationshipLabel)
  | unknownPrincipal (label : RelationshipLabel) (entity : String)
  | unknownKeyProperty (label : RelationshipLabel) (property : String)
  | noColumns (kind : ColumnList) (name : String)
  | unknownColumn (kind : ColumnList) (name column : String)
  | repeatedMappingClass (name : String)
  deriving DecidableEq, Repr

namespace MetadataFault

def message : MetadataFault → String
  | duplicateProperty name => "duplicate property '" ++ name ++ "'"
  | noForeignKey label => "relationship " ++ label.text ++ " has no foreign key properties"
  | unknownPrincipal label entity =>
    "relationship " ++ label.text ++ " references unknown entity '" ++ entity ++ "'"
  | unknownKeyProperty label property =>
    "relationship " ++ label.text ++ " references unknown property '" ++ property ++ "'"
  | noColumns kind name => kind.text ++ " '" ++ name ++ "' has no columns"
  | unknownColumn kind name column =>
    kind.text ++ " '" ++ name ++ "' references unknown column '" ++ column ++ "'"
  | repeatedMappingClass name => "mapping class " ++ name ++ " is generated twice"

end MetadataFault

inductive EmissionFault where
  | metadata (fault : MetadataFault)
  | inflection (fault : CaseFault)
  deriving DecidableEq, Repr

/-- Order of the groups after the table and the key. -/
inductive Ordering where
  /-- Properties, relationships, indexes, alternate keys. -/
  | propertiesFirst
  /-- Indexes, alternate keys, properties, relationships. -/
  | indexesFirst
  deriving DecidableEq, Repr

/-- What is decided once for all plans of a run. -/
structure Emission where
  naming : Naming.Policy
  ordering : Ordering := .propertiesFirst
  withConstants : Bool := true
  deriving DecidableEq, Repr

/-- The first element that an earlier one equals, where `seen` came before. -/
def firstRepeated {α : Type} [DecidableEq α] (seen : List α) : List α → Option α
  | [] => none
  | a :: rest => if a ∈ seen then some a else firstRepeated (a :: seen) rest

/-- An optional text that counts as absent when it is empty. -/
def nonEmpty (s : Option String) : Option String := s.filter fun s => !s.isEmpty

def nonBlank (s : Option String) : Option String := s.filter fun s => !Text.isBlankText s.toList

namespace Property

def storeTypeClass (p : Property) : StoreTypeClass :=
  match nonEmpty p.storeType with
  | none => .other
  | some storeType => StoreTypeClass.ofStoreType storeType

def rowVersionDirectives (p : Property) : List Directive :=
  if p.isRowVersion then
    [.rowVersion, .required true, .numberToBytesConversion, .columnType "rowversion"]
  else []

def columnNameDirective (p : Property) (identifier : String) : List Directive :=
  if identifier = p.columnName then [] else [.columnName p.columnName]

def columnTypeDirective (p : Property) : List Directive :=
  match nonEmpty p.storeType with
  | none => []
  | some storeType =>
    if p.storeTypeClass.needsColumnType || p.isHierarchyId then [.columnType storeType] else []

def ansiTextDirectives (p : Property) : List Directive :=
  if p.valueType.isText && p.storeTypeClass = .ansiText then
    [.unicode false, .required (!p.isNullable)]
  else []

def maxLengthDirective (p : Property) : List Directive :=
  if p.valueType.isSized && !p.isRowVersion && !p.isHierarchyId then
    match p.size with
    | some size => if 0 < size then [.maxLength size] else []
    | none => []
  else []

def defaultValueDirective (p : Property) : List Directive :=
  match nonBlank p.default with
  | none => []
  | some sql => [.defaultValueSql (DefaultValue.stripOuterParens sql)]

def computedColumnDirective (p : Property) : List Directive :=
  match nonEmpty p.computedSql with
  | none => []
  | some sql => [.computedColumnSql sql]

/-- The directive that says when the value is generated, after the expression it is computed by.
Row versions have neither. -/
def generationDirectives (p : Property) : List Directive :=
  if p.isRowVersion then []
  else
    match p.valueGenerated with
    | .none => []
    | .onAdd => p.computedColumnDirective ++ [.valueGeneratedOnAdd]
    | .onAddOrUpdate => p.computedColumnDirective ++ [.valueGeneratedOnAddOrUpdate]
    | .onUpdate => p.computedColumnDirective ++ [.valueGeneratedOnUpdate]

def directives (p : Property) (identifier : String) : List Directive :=
  p.rowVersionDirectives ++ p.columnNameDirective identifier ++ p.columnTypeDirective ++
    p.ansiTextDirectives ++ p.maxLengthDirective ++ p.defaultValueDirective ++
    p.generationDirectives

end Property

namespace Emission

variable (em : Emission) (schema : Schema) (entity : Entity)

def tableStatement : Statement :=
  if entity.isView then .view entity.tableName (nonEmpty entity.tableSchema)
  else .table entity.tableName (nonEmpty entity.tableSchema)

def identifier (p : Property) : String := em.naming.property p.propertyName

def keyStatement : Statement :=
  match (entity.properties.filter (·.isPrimaryKey)).map em.identifier with
  | [] => .noKey
  | columns => .key columns

def propertyStatement? (p : Property) : Option Statement :=
  match p.directives (em.identifier p) with
  | [] => none
  | directives => some (.property (em.identifier p) directives)

def propertyStatements : List Statement := entity.properties.filterMap em.propertyStatement?

/-- A name inflected for the sake of the plan. -/
def inflected {α : Type} (r : Except CaseFault α) : Except EmissionFault α :=
  r.mapError .inflection

def keyIdentifier (label : RelationshipLabel) (name : String) : Except EmissionFault String :=
  match entity.property? name with
  | none => .error (.metadata (.unknownKeyProperty label name))
  | some p => inflected (em.naming.foreignKey p.propertyName)

def relationshipStatement (r : Relationship) : Except EmissionFault Statement := do
  let label := RelationshipLabel.of r
  if r.properties.isEmpty then
    throw (.metadata (.noForeignKey label))
  match schema.entity? r.primaryEntity with
  | none => throw (.metadata (.unknownPrincipal label r.primaryEntity))
  | some principal =>
    let foreignKey ← r.properties.mapM (em.keyIdentifier entity label)
    let predicted ←
      inflected (DefaultName.foreignKey entity.tableSchema entity.tableName principal.tableName)
    let navigation ← inflected (em.naming.navigation r.propertyName .one)
    let principalNavigation ←
      inflected (em.naming.navigation r.primaryPropertyName r.primaryCardinality)
    return .relationship {
      navigation, principalNavigation, foreignKey
      cardinality := r.primaryCardinality
      oneToOne := r.isOneToOne
      constraintName :=
        r.relationshipName.filter fun name => DefaultName.needsOverride name predicted }

def columnIdentifier (kind : ColumnList) (name column : String) : Except EmissionFault String :=
  match entity.propertyForColumn? column with
  | none => .error (.metadata (.unknownColumn kind name column))
  | some p => .ok (em.identifier p)

def columnIdentifiers (kind : ColumnList) (name : String) (columns : List String) :
    Except EmissionFault (List String) :=
  if columns.isEmpty then .error (.metadata (.noColumns kind name))
  else columns.mapM (em.columnIdentifier entity kind name)

def indexStatement (i : Index) : Except EmissionFault Statement := do
  let columns ← em.columnIdentifiers entity .index i.name i.columns
  let predicted := DefaultName.index entity.tableName i.columns
  return .index {
    columns
    name := if DefaultName.needsOverride i.name predicted then some i.name else none
    filter := nonBlank i.filter
    unique := i.isUnique }

def alternateKeyStatement (c : UniqueConstraint) : Except EmissionFault Statement := do
  let columns ← em.columnIdentifiers entity .uniqueConstraint c.name c.columns
  return .alternateKey columns c.name

def constants : TableConstants where
  schema := nonEmpty entity.tableSchema
  name := entity.tableName
  columns := entity.properties.map fun p => (em.identifier p, p.columnName)

def arrange (properties relationships indexes alternateKeys : List Statement) : List Statement :=
  match em.ordering with
  | .propertiesFirst => properties ++ relationships ++ indexes ++ alternateKeys
  | .indexesFirst => indexes ++ alternateKeys ++ properties ++ relationships

/-- The plan of an entity. Property names are checked first, then the mapped relationships, the
indexes and the unique constraints, each group in its own order. -/
def plan : Except EmissionFault MappingPlan := do
  match firstRepeated [] (entity.properties.map (·.propertyName)) with
  | some name => throw (.metadata (.duplicateProperty name))
  | none =>
    let relationships ←
      (entity.relationships.filter (·.isMapped)).mapM (em.relationshipStatement schema entity)
    let indexes ← entity.indexes.mapM (em.indexStatement entity)
    let alternateKeys ← entity.uniqueConstraints.mapM (em.alternateKeyStatement entity)
    let statements := tableStatement entity :: em.keyStatement entity ::
      em.arrange (em.propertyStatements entity) relationships indexes alternateKeys
    return {
      entityClass := entity.entityClass
      entityNamespace := entity.entityNamespace
      mappingClass := entity.mappingClass
      mappingNamespace := entity.mappingNamespace
      statements
      constants := if em.withConstants then some (em.constants entity) else none }

end Emission

end EntityMapping
