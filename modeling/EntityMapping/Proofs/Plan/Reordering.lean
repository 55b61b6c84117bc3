import EntityMapping.Proofs.Plan.Arrangement
import EntityMapping.Proofs.Plan.Locality

/-! # The order of properties

The properties of an entity may be declared in any order, as long as their columns differ. The plan
then has the key, the property statements and the constants in the new order, and all that refers
to properties by names or columns comes out as before.
-/

namespace EntityMapping

/-- Arrangements that differ at most in the key and in the order of the property statements. -/
structure Arrangement.Reorders (a b : Arrangement) : Prop where
  table : b.table = a.table
  properties : b.properties.Perm a.properties
  relationships : b.relationships = a.relationships
  indexes : b.indexes = a.indexes
  alternateKeys : b.alternateKeys = a.alternateKeys

namespace Emission

open Outcome

/-- Plans of one entity before and after its properties were put in another order. The statements
of both are arranged by the same rule, each from the properties in their own order, and so are the
constants. -/
structure Reorders (em : Emission) (before after : Entity) (plan reordered : MappingPlan) :
    Prop where
  statements : ∃ a b, em.Arranges before a ∧ plan.statements = a.statements em.ordering ∧
    em.Arranges after b ∧ reordered.statements = b.statements em.ordering ∧ a.Reorders b
  primaryKey : (em.primaryKey after).Perm (em.primaryKey before)
  columns : ∀ constants, plan.constants = some constants →
    constants.columns = before.properties.map fun p => (em.identifier p, p.columnName)
  constants : reordered.constants = plan.constants.map fun constants =>
    { constants with columns := after.properties.map fun p => (em.identifier p, p.columnName) }
  classes : { reordered with statements := plan.statements, constants := plan.constants } = plan

variable {em : Emission} {schema : Schema} {entity : Entity} {plan : MappingPlan}
  {properties : List Property}

section Lookups

variable (hp : entity.properties.Perm properties)
  (hn : (entity.properties.map (·.propertyName)).Nodup)
  (hc : (entity.properties.map (·.columnName)).Nodup)

include hp hn

theorem keyIdentifier_of_perm (label : RelationshipLabel) :
    em.keyIdentifier { entity with properties } label = em.keyIdentifier entity label := by
  funext name
  rw [keyIdentifier, keyIdentifier, Entity.property?_eq_of_perm hp hn]

theorem relationshipStatement_of_perm :
    em.relationshipStatement schema { entity with properties } =
      em.relationshipStatement schema entity := by
  funext r
  simp only [relationshipStatement, keyIdentifier_of_perm hp hn]

include hc

theorem columnIdentifiers_of_perm (kind : ColumnList) (name : String) (columns : List String) :
    em.columnIdentifiers { entity with properties } kind name columns =
      em.columnIdentifiers entity kind name columns := by
  have hcolumn : em.columnIdentifier { entity with properties } kind name =
      em.columnIdentifier entity kind name := by
    funext column
    rw [columnIdentifier, columnIdentifier, Entity.propertyForColumn?_eq_of_perm hp hn hc]
  rw [columnIdentifiers, columnIdentifiers, hcolumn]

theorem indexStatement_of_perm :
    em.indexStatement { entity with properties } = em.indexStatement entity := by
  funext i
  rw [indexStatement, indexStatement, columnIdentifiers_of_perm hp hn hc]

theorem alternateKeyStatement_of_perm :
    em.alternateKeyStatement { entity with properties } = em.alternateKeyStatement entity := by
  funext c
  rw [alternateKeyStatement, alternateKeyStatement, columnIdentifiers_of_perm hp hn hc]

end Lookups

theorem columns_of_plan (h : em.plan schema entity = .ok plan) {constants : TableConstants}
    (hs : plan.constants = some constants) :
    constants.columns = entity.properties.map fun p => (em.identifier p, p.columnName) := by
  obtain ⟨-, _, _, _, -, -, -, rfl⟩ := plan_eq_ok_iff.mp h
  split at hs
  · rw [← Option.some.inj hs]
    rfl
  · cases hs

theorem exists_plan_of_perm (h : em.plan schema entity = .ok plan)
    (hc : (entity.properties.map (·.columnName)).Nodup) (hp : entity.properties.Perm properties) :
    ∃ reordered relationships indexes alternateKeys,
      em.plan schema { entity with properties } = .ok reordered ∧
      em.Grouped schema entity plan (em.parts entity relationships indexes alternateKeys) ∧
      em.Grouped schema { entity with properties } reordered
        (em.parts { entity with properties } relationships indexes alternateKeys) ∧
      (reordered.constants = plan.constants.map fun constants =>
        { constants with columns := properties.map fun p => (em.identifier p, p.columnName) }) ∧
      { reordered with statements := plan.statements, constants := plan.constants } = plan := by
  obtain ⟨hf, relationships, indexes, alternateKeys, hr, hi, hk, rfl⟩ := plan_eq_ok_iff.mp h
  have hn := (firstRepeated_eq_none_iff.mp hf).1
  have hf' : firstRepeated [] (properties.map (·.propertyName)) = none :=
    firstRepeated_eq_none_iff.mpr ⟨(hp.map _).nodup hn, fun _ _ => List.not_mem_nil⟩
  have hr' := hr
  have hi' := hi
  have hk' := hk
  rw [← relationshipStatement_of_perm hp hn] at hr'
  rw [← indexStatement_of_perm hp hn hc] at hi'
  rw [← alternateKeyStatement_of_perm hp hn hc] at hk'
  refine ⟨_, relationships, indexes, alternateKeys,
    plan_eq_ok_iff.mpr ⟨hf', relationships, indexes, alternateKeys, hr', hi', hk', rfl⟩,
    ⟨rfl, rfl, rfl, rfl, hr, hi, hk⟩, ⟨rfl, rfl, rfl, rfl, hr', hi', hk'⟩, ?_, rfl⟩
  cases hw : em.withConstants
  · rfl
  · rfl

theorem reorders_of_perm (hp : entity.properties.Perm properties)
    {relationships indexes alternateKeys : List Statement} :
    (Grouped.arrangement (em.parts entity relationships indexes alternateKeys) em entity).Reorders
      (Grouped.arrangement (em.parts { entity with properties } relationships indexes alternateKeys)
        em { entity with properties }) where
  table := rfl
  properties := hp.symm.filterMap _
  relationships := rfl
  indexes := rfl
  alternateKeys := rfl

/-- In any order of its properties an entity has a plan as soon as it has one in some order, and
only what lists the properties follows the order. So it is too where the schema holds the entity
in the new order. -/
theorem plan_reorders (h : em.plan schema entity = .ok plan)
    (hc : (entity.properties.map (·.columnName)).Nodup) (hp : entity.properties.Perm properties) :
    ∃ reordered,
      (∀ other : Schema, other.tables = schema.tables →
        em.plan other { entity with properties } = .ok reordered) ∧
      em.Reorders entity { entity with properties } plan reordered := by
  obtain ⟨reordered, relationships, indexes, alternateKeys, hplan, hg, hg', hconstants, hclasses⟩ :=
    exists_plan_of_perm h hc hp
  refine ⟨reordered, fun other ht => ?_, ?_⟩
  · rw [← hplan]
    refine plan_congr fun r _ _ => ?_
    rw [Schema.tableOf?_eq_find?, Schema.tableOf?_eq_find?, ht]
  · constructor
    · exact ⟨_, _, hg.arranges, hg.statements_eq, hg'.arranges, hg'.statements_eq,
        reorders_of_perm hp⟩
    · exact (hp.symm.filter _).map _
    · exact fun _ hs => columns_of_plan h hs
    · exact hconstants
    · exact hclasses

end Emission

namespace Sample

/-- Orders with two columns in the key, where the column of one property is the name of another and
an index lists that column. -/
def crossedOrders : Entity :=
  { orders with
    properties := [
      { propertyName := "Id", columnName := "id", isPrimaryKey := true },
      { propertyName := "CustomerEntity", columnName := "Reference" },
      { propertyName := "Reference", columnName := "customer_ref" },
      { propertyName := "Line", columnName := "Line", isPrimaryKey := true }]
    indexes := [{ name := "IX_Reference", columns := ["Reference", "Line"] }] }

def turnedOrders : Entity :=
  { crossedOrders with properties := crossedOrders.properties.reverse }

def crossedOrdersPlan : MappingPlan :=
  { ordersPlan with
    statements := [
      .table "Orders" none,
      .key ["Id", "Line"],
      .property "Id" [.columnName "id"],
      .property "CustomerEntity" [.columnName "Reference"],
      .property "Reference" [.columnName "customer_ref"],
      .relationship {
        navigation := "Customer"
        cardinality := .many
        principalNavigation := "Orders"
        foreignKey := ["Customer"] },
      .index { columns := ["CustomerEntity", "Line"], name := some "IX_Reference" }]
    constants := some {
      name := "Orders"
      columns := [("Id", "id"), ("CustomerEntity", "Reference"), ("Reference", "customer_ref"),
        ("Line", "Line")] } }

theorem plan_reorders_crossedOrders :
    emission.plan shop crossedOrders = .ok crossedOrdersPlan ∧
    (crossedOrders.properties.map (·.columnName)).Nodup ∧
    crossedOrders.properties.Perm crossedOrders.properties.reverse ∧
    ∃ turnedPlan, emission.plan ⟨[customers, turnedOrders]⟩ turnedOrders = .ok turnedPlan ∧
      emission.Reorders crossedOrders turnedOrders crossedOrdersPlan turnedPlan := by
  have h : emission.plan shop crossedOrders = .ok crossedOrdersPlan := by decide +kernel
  have hc : (crossedOrders.properties.map (·.columnName)).Nodup := by decide
  have hp : crossedOrders.properties.Perm crossedOrders.properties.reverse :=
    crossedOrders.properties.reverse_perm.symm
  obtain ⟨turnedPlan, ht, hr⟩ := Emission.plan_reorders h hc hp
  exact ⟨h, hc, hp, turnedPlan, ht _ rfl, hr⟩

end Sample

end EntityMapping
