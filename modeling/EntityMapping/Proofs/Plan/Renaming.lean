import EntityMapping.Proofs.Plan.Arrangement
import EntityMapping.Proofs.Plan.Inflection

/-! # One entity under two naming policies

A policy decides nothing but identifiers. Under any two of them an entity has a plan or has none for
the same reason, and the two plans agree in all that is not an identifier. Only the column name of a
property follows its identifier, so that one policy may need a statement for a property that
another has nothing to say about.
-/

namespace EntityMapping

namespace Directive

def isColumnName : Directive → Bool
  | columnName _ => true
  | _ => false

def withoutColumnName (directives : List Directive) : List Directive :=
  directives.filter fun d => !d.isColumnName

end Directive

def unspelled (identifiers : List String) : List String := identifiers.map fun _ => ""

theorem unspelled_eq_of_length_eq {as bs : List String} (h : as.length = bs.length) :
    unspelled as = unspelled bs := by
  rw [unspelled, unspelled, List.map_const', List.map_const', h]

namespace Statement

/-- The statement without identifiers and column name. A property whose column name is all that is
set has no statement then. -/
def unnamed? : Statement → Option Statement
  | table name schema => some (table name schema)
  | view name schema => some (view name schema)
  | noKey => some noKey
  | key columns => some (key (unspelled columns))
  | property _ directives =>
    match Directive.withoutColumnName directives with
    | [] => none
    | others => some (property "" others)
  | relationship r =>
    some (relationship
      { r with navigation := "", principalNavigation := "", foreignKey := unspelled r.foreignKey })
  | index i => some (index { i with columns := unspelled i.columns })
  | alternateKey columns name => some (alternateKey (unspelled columns) name)

theorem unnamed?_property_congr {name other : String} {directives others : List Directive}
    (h : Directive.withoutColumnName directives = Directive.withoutColumnName others) :
    (property name directives).unnamed? = (property other others).unnamed? := by
  rw [unnamed?, unnamed?, h]

end Statement

def TableConstants.unnamed (c : TableConstants) : TableConstants :=
  { c with columns := c.columns.map fun column => ("", column.2) }

/-- The plan with everything but its identifiers and the column names that follow from them. -/
def MappingPlan.unnamed (plan : MappingPlan) : MappingPlan :=
  { plan with
    statements := plan.statements.filterMap Statement.unnamed?
    constants := plan.constants.map TableConstants.unnamed }

section Directives

open Directive

variable {p : Property}

theorem withoutColumnName_append (ds es : List Directive) :
    withoutColumnName (ds ++ es) = withoutColumnName ds ++ withoutColumnName es :=
  List.filter_append ds es

theorem withoutColumnName_columnNameDirective (identifier : String) :
    withoutColumnName (p.columnNameDirective identifier) = [] := by
  unfold Property.columnNameDirective
  split <;> rfl

theorem withoutColumnName_directives (p : Property) (identifier other : String) :
    withoutColumnName (p.directives identifier) = withoutColumnName (p.directives other) := by
  simp only [Property.directives, withoutColumnName_append, withoutColumnName_columnNameDirective]

end Directives

namespace Emission

open Outcome

/-- Plans of one entity under two policies. Each has the property statements of its own policy,
which differ in column names alone for one and the same property. -/
structure Renames (em other : Emission) (entity : Entity) (plan renamed : MappingPlan) : Prop where
  unnamed : plan.unnamed = renamed.unnamed
  properties : plan.propertyBindings =
    (entity.properties.map fun p => (em.identifier p, p.directives (em.identifier p))).filter
      fun b => b.2 ≠ []
  renamedProperties : renamed.propertyBindings =
    (entity.properties.map fun p =>
      (other.identifier p, p.directives (other.identifier p))).filter fun b => b.2 ≠ []
  directives : ∀ p ∈ entity.properties,
    Directive.withoutColumnName (p.directives (em.identifier p)) =
      Directive.withoutColumnName (p.directives (other.identifier p))

variable {em other : Emission} {schema : Schema} {entity : Entity}
  {plan renamed : MappingPlan} {s t : Statement}

theorem unnamed_keyStatement (em other : Emission) (entity : Entity) :
    (em.keyStatement entity).unnamed? = (other.keyStatement entity).unnamed? := by
  unfold keyStatement
  cases entity.properties.filter (·.isPrimaryKey) with
  | nil => rfl
  | cons p keys =>
    have hl : ((p :: keys).map em.identifier).length = ((p :: keys).map other.identifier).length :=
      by rw [List.length_map, List.length_map]
    exact congrArg (fun columns => some (Statement.key columns)) (unspelled_eq_of_length_eq hl)

theorem bind_unnamed_propertyStatement (p : Property) :
    (em.propertyStatement? p).bind Statement.unnamed? =
      (Statement.property "" (p.directives (em.identifier p))).unnamed? := by
  unfold propertyStatement?
  split
  next h =>
    rw [h]
    rfl
  next => rfl

theorem unnamed_propertyStatements (em other : Emission) (entity : Entity) :
    (em.propertyStatements entity).filterMap Statement.unnamed? =
      (other.propertyStatements entity).filterMap Statement.unnamed? := by
  unfold propertyStatements
  rw [List.filterMap_filterMap, List.filterMap_filterMap]
  refine List.filterMap_congr fun p _ => ?_
  rw [bind_unnamed_propertyStatement, bind_unnamed_propertyStatement]
  exact Statement.unnamed?_property_congr (withoutColumnName_directives p _ _)

theorem unnamed_relationshipStatement {r : Relationship}
    (h : em.relationshipStatement schema entity r = .ok s)
    (h' : other.relationshipStatement schema entity r = .ok t) : s.unnamed? = t.unnamed? := by
  obtain ⟨-, principal, foreignKey, predicted, _, _, hp, hk, hd, -, -, rfl⟩ :=
    relationshipStatement_eq_ok_iff.mp h
  obtain ⟨-, principal', foreignKey', predicted', _, _, hp', hk', hd', -, -, rfl⟩ :=
    relationshipStatement_eq_ok_iff.mp h'
  obtain rfl : principal = principal' := Option.some.inj (hp.symm.trans hp')
  obtain rfl : predicted = predicted' := Except.ok.inj (hd.symm.trans hd')
  have hl : foreignKey.length = foreignKey'.length :=
    (mapM_eq_ok_iff.mp hk).length_eq.symm.trans (mapM_eq_ok_iff.mp hk').length_eq
  simp only [Statement.unnamed?, unspelled_eq_of_length_eq hl]

theorem length_columnIdentifiers {kind : ColumnList} {name : String}
    {columns identifiers : List String}
    (h : em.columnIdentifiers entity kind name columns = .ok identifiers) :
    columns.length = identifiers.length :=
  (namesColumn_of_columnIdentifiers h).length_eq

theorem unnamed_indexStatement {i : Index} (h : em.indexStatement entity i = .ok s)
    (h' : other.indexStatement entity i = .ok t) : s.unnamed? = t.unnamed? := by
  obtain ⟨columns, hc, rfl⟩ := indexStatement_eq_ok_iff.mp h
  obtain ⟨columns', hc', rfl⟩ := indexStatement_eq_ok_iff.mp h'
  have hl := (length_columnIdentifiers hc).symm.trans (length_columnIdentifiers hc')
  simp only [Statement.unnamed?, unspelled_eq_of_length_eq hl]

theorem unnamed_alternateKeyStatement {c : UniqueConstraint}
    (h : em.alternateKeyStatement entity c = .ok s)
    (h' : other.alternateKeyStatement entity c = .ok t) : s.unnamed? = t.unnamed? := by
  obtain ⟨columns, hc, rfl⟩ := alternateKeyStatement_eq_ok_iff.mp h
  obtain ⟨columns', hc', rfl⟩ := alternateKeyStatement_eq_ok_iff.mp h'
  have hl := (length_columnIdentifiers hc).symm.trans (length_columnIdentifiers hc')
  simp only [Statement.unnamed?, unspelled_eq_of_length_eq hl]

theorem unnamed_constants (em other : Emission) (entity : Entity) :
    (em.constants entity).unnamed = (other.constants entity).unnamed := by
  simp only [constants, TableConstants.unnamed, List.map_map, Function.comp_def]

theorem filterMap_arrange (select : Statement → Option Statement) (ps rs is ks : List Statement) :
    (em.arrange ps rs is ks).filterMap select =
      em.arrange (ps.filterMap select) (rs.filterMap select) (is.filterMap select)
        (ks.filterMap select) := by
  unfold arrange
  cases em.ordering <;> simp only [List.filterMap_append]

theorem arrange_eq_of_ordering_eq (h : other.ordering = em.ordering) :
    other.arrange = em.arrange := by
  funext ps rs is ks
  rw [arrange, arrange, h]

theorem unnamed_plan (ho : other.ordering = em.ordering)
    (hw : other.withConstants = em.withConstants) (h : em.plan schema entity = .ok plan)
    (h' : other.plan schema entity = .ok renamed) : plan.unnamed = renamed.unnamed := by
  obtain ⟨-, rs, is, ks, hr, hi, hk, rfl⟩ := plan_eq_ok_iff.mp h
  obtain ⟨-, rs', is', ks', hr', hi', hk', rfl⟩ := plan_eq_ok_iff.mp h'
  have hstatements : (em.arrange (em.propertyStatements entity) rs is ks).filterMap
        Statement.unnamed? =
      (other.arrange (other.propertyStatements entity) rs' is' ks').filterMap
        Statement.unnamed? := by
    rw [arrange_eq_of_ordering_eq ho, filterMap_arrange, filterMap_arrange,
      unnamed_propertyStatements em other,
      filterMap_eq_of_mapM hr hr' fun _ _ _ => unnamed_relationshipStatement,
      filterMap_eq_of_mapM hi hi' fun _ _ _ => unnamed_indexStatement,
      filterMap_eq_of_mapM hk hk' fun _ _ _ => unnamed_alternateKeyStatement]
  have hconstants : (if em.withConstants then some (em.constants entity) else none).map
        TableConstants.unnamed =
      (if other.withConstants then some (other.constants entity) else none).map
        TableConstants.unnamed := by
    rw [hw, apply_ite (Option.map _), apply_ite (Option.map _), Option.map_some, Option.map_some,
      unnamed_constants em other]
  simp only [MappingPlan.unnamed, List.filterMap_cons, unnamed_keyStatement em other, hstatements,
    hconstants]

/-- Whatever the two policies are, an entity has a plan under both or fails with the same fault
under both, and two plans differ in identifiers alone. -/
theorem plan_renames (em : Emission) (naming : Naming.Policy) (schema : Schema) (entity : Entity)
    (h : Inflects (em.plan schema entity))
    (h' : Inflects ({ em with naming }.plan schema entity)) :
    ((∃ plan, em.plan schema entity = .ok plan) ↔
      ∃ renamed, { em with naming }.plan schema entity = .ok renamed) ∧
    (∀ fault, em.plan schema entity = .error fault ↔
      { em with naming }.plan schema entity = .error fault) ∧
    ∀ plan renamed, em.plan schema entity = .ok plan →
      { em with naming }.plan schema entity = .ok renamed →
      Renames em { em with naming } entity plan renamed := by
  have hr := em.reported_plan schema entity
  have hr' := { em with naming }.reported_plan schema entity
  refine ⟨(hr.ok_iff h).trans (hr'.ok_iff h').symm, fun fault => ?_, fun plan renamed hp hp' => ?_⟩
  · cases fault with
    | metadata f => exact (hr.error_iff h).trans (hr'.error_iff h').symm
    | inflection w => exact iff_of_false (h w) (h' w)
  · refine ⟨?_, propertyBindings_of_plan hp, propertyBindings_of_plan hp',
      fun p _ => withoutColumnName_directives p _ _⟩
    refine unnamed_plan ?_ ?_ hp hp' <;> rfl

end Emission

namespace Sample

def snakeOrders : Entity :=
  { indexedOrders with
    properties := [
      { propertyName := "Id", columnName := "id", isPrimaryKey := true },
      { propertyName := "CustomerEntity", columnName := "customer_id" },
      { propertyName := "order_date", columnName := "order_date" }]
    uniqueConstraints := [{ name := "AK_Date", columns := ["order_date"] }] }

def snakeOrdersPlan (date : String) (statements : List Statement) : MappingPlan where
  entityClass := "OrderEntity"
  mappingClass := "OrderMapping"
  statements := [
    .table "Orders" none,
    .key ["Id"],
    .property "Id" [.columnName "id"],
    .property "CustomerEntity" [.columnName "customer_id"]] ++ statements ++ [
    .relationship {
      navigation := "Customer"
      cardinality := .many
      principalNavigation := "Orders"
      foreignKey := ["Customer"] },
    .index { columns := ["CustomerEntity", "Id"], name := some "IX_Lookup", unique := true },
    .alternateKey [date] "AK_Date"]
  constants := some {
    name := "Orders"
    columns := [("Id", "id"), ("CustomerEntity", "customer_id"), (date, "order_date")] }

theorem plan_renames_snakeOrders :
    Emission.Inflects (emission.plan shop snakeOrders) ∧
    Emission.Inflects ({ emission with naming := ⟨.suffix, "Entity"⟩ }.plan shop snakeOrders) ∧
    Emission.Renames emission { emission with naming := ⟨.suffix, "Entity"⟩ } snakeOrders
      (snakeOrdersPlan "OrderDate" [.property "OrderDate" [.columnName "order_date"]])
      (snakeOrdersPlan "order_date" []) := by
  have hp : emission.plan shop snakeOrders =
      .ok (snakeOrdersPlan "OrderDate" [.property "OrderDate" [.columnName "order_date"]]) := by
    decide +kernel
  have hs : { emission with naming := ⟨.suffix, "Entity"⟩ }.plan shop snakeOrders =
      .ok (snakeOrdersPlan "order_date" []) := by
    decide +kernel
  have h : Emission.Inflects (emission.plan shop snakeOrders) := by
    rw [hp]
    exact fun _ => nofun
  have h' : Emission.Inflects
      ({ emission with naming := ⟨.suffix, "Entity"⟩ }.plan shop snakeOrders) := by
    rw [hs]
    exact fun _ => nofun
  obtain ⟨-, -, hr⟩ := emission.plan_renames ⟨.suffix, "Entity"⟩ shop snakeOrders h h'
  exact ⟨h, h', hr _ _ hp hs⟩

end Sample

end EntityMapping
