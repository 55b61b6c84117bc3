import EntityMapping.Proofs.Plan.Acceptance
import EntityMapping.Proofs.Plan.Statements

/-! # The order of statements

A plan opens with its table and its key. Four groups follow, each with the statements for one list
of the entity in the order of that list. The groups stand in one of two orders, which is all that
sets the two plans of an entity apart.
-/

namespace EntityMapping

/-- The statements of a plan by the parts of the entity that they are about. -/
structure Arrangement where
  table : Statement
  key : Statement
  properties : List Statement
  relationships : List Statement
  indexes : List Statement
  alternateKeys : List Statement

def Arrangement.statements (a : Arrangement) : Ordering → List Statement
  | .propertiesFirst =>
    a.table :: a.key :: (a.properties ++ a.relationships ++ a.indexes ++ a.alternateKeys)
  | .indexesFirst =>
    a.table :: a.key :: (a.indexes ++ a.alternateKeys ++ a.properties ++ a.relationships)

namespace Emission

open Outcome

def primaryKey (em : Emission) (entity : Entity) : List String :=
  (entity.properties.filter (·.isPrimaryKey)).map em.identifier

/-- The identifier stands for the property behind a listed column. -/
def NamesColumn (em : Emission) (entity : Entity) (column identifier : String) : Prop :=
  ∃ p, entity.propertyForColumn? column = some p ∧ identifier = em.identifier p

/-- The identifier stands for a property in a foreign key. -/
def NamesKey (em : Emission) (entity : Entity) (name identifier : String) : Prop :=
  ∃ p, entity.property? name = some p ∧ em.naming.foreignKey p.propertyName = .ok identifier

/-- The binding is that of the relationship, with the foreign key in the order declared. -/
structure Relates (em : Emission) (entity : Entity) (r : Relationship) (b : RelationshipBinding) :
    Prop where
  navigation : em.naming.navigation r.propertyName .one = .ok b.navigation
  principalNavigation :
    em.naming.navigation r.primaryPropertyName r.primaryCardinality = .ok b.principalNavigation
  cardinality : b.cardinality = r.primaryCardinality
  oneToOne : b.oneToOne = r.isOneToOne
  foreignKey : List.Forall₂ (em.NamesKey entity) r.properties b.foreignKey

/-- Every statement is the one for its part of the entity, and every part has its statement. -/
structure Arranges (em : Emission) (entity : Entity) (a : Arrangement) : Prop where
  table : a.table = if entity.isView then .view entity.tableName (nonEmpty entity.tableSchema)
    else .table entity.tableName (nonEmpty entity.tableSchema)
  key : a.key = if em.primaryKey entity = [] then .noKey else .key (em.primaryKey entity)
  properties : a.properties =
    (entity.properties.filter fun p => p.directives (em.identifier p) ≠ []).map fun p =>
      .property (em.identifier p) (p.directives (em.identifier p))
  relationships : List.Forall₂ (fun r s => ∃ b, s = .relationship b ∧ em.Relates entity r b)
    (entity.relationships.filter (·.isMapped)) a.relationships
  indexes : List.Forall₂
    (fun i s => ∃ b, s = .index b ∧ List.Forall₂ (em.NamesColumn entity) i.columns b.columns)
    entity.indexes a.indexes
  alternateKeys : List.Forall₂
    (fun c s => ∃ columns, s = .alternateKey columns c.name ∧
      List.Forall₂ (em.NamesColumn entity) c.columns columns)
    entity.uniqueConstraints a.alternateKeys

variable {em : Emission} {schema : Schema} {entity : Entity} {plan : MappingPlan}
  {parts : Section → List Statement}

theorem keyStatement_eq :
    em.keyStatement entity =
      if em.primaryKey entity = [] then .noKey else .key (em.primaryKey entity) := by
  unfold keyStatement primaryKey
  split
  next h => rw [if_pos h]
  next columns hn => rw [if_neg hn]

theorem propertyStatements_eq :
    em.propertyStatements entity =
      (entity.properties.filter fun p => p.directives (em.identifier p) ≠ []).map fun p =>
        .property (em.identifier p) (p.directives (em.identifier p)) := by
  unfold propertyStatements
  induction entity.properties with
  | nil => rfl
  | cons p ps ih =>
    cases hd : p.directives (em.identifier p) with
    | nil => simpa [propertyStatement?, hd] using ih
    | cons d ds => simpa [propertyStatement?, hd] using ih

theorem namesColumn_of_columnIdentifiers {kind : ColumnList} {name : String}
    {columns identifiers : List String}
    (h : em.columnIdentifiers entity kind name columns = .ok identifiers) :
    List.Forall₂ (em.NamesColumn entity) columns identifiers := by
  unfold columnIdentifiers at h
  split at h
  · cases h
  · refine (mapM_eq_ok_iff.mp h).imp fun column identifier hc => ?_
    unfold columnIdentifier at hc
    split at hc
    · cases hc
    next p hp => exact ⟨p, hp, (Except.ok.inj hc).symm⟩

theorem relates_of_relationshipStatement {r : Relationship} {statement : Statement}
    (h : em.relationshipStatement schema entity r = .ok statement) :
    ∃ b, statement = .relationship b ∧ em.Relates entity r b := by
  obtain ⟨-, _, foreignKey, _, _, _, -, hk, -, hn, hp, rfl⟩ :=
    relationshipStatement_eq_ok_iff.mp h
  refine ⟨_, rfl, hn, hp, rfl, rfl, ?_⟩
  exact (mapM_eq_ok_iff.mp hk).imp fun name identifier hi => keyIdentifier_eq_ok_iff.mp hi

namespace Grouped

def arrangement (parts : Section → List Statement) (em : Emission) (entity : Entity) :
    Arrangement where
  table := tableStatement entity
  key := em.keyStatement entity
  properties := parts .properties
  relationships := parts .relationships
  indexes := parts .indexes
  alternateKeys := parts .alternateKeys

theorem arranges (hg : em.Grouped schema entity plan parts) :
    em.Arranges entity (arrangement parts em entity) where
  table := rfl
  key := keyStatement_eq
  properties := hg.properties.trans propertyStatements_eq
  relationships :=
    (mapM_eq_ok_iff.mp hg.relationships).imp fun _ _ h => relates_of_relationshipStatement h
  indexes := (mapM_eq_ok_iff.mp hg.indexes).imp fun i s h => by
    obtain ⟨columns, hc, rfl⟩ := indexStatement_eq_ok_iff.mp h
    exact ⟨_, rfl, namesColumn_of_columnIdentifiers hc⟩
  alternateKeys := (mapM_eq_ok_iff.mp hg.alternateKeys).imp fun c s h => by
    obtain ⟨columns, hc, rfl⟩ := alternateKeyStatement_eq_ok_iff.mp h
    exact ⟨_, rfl, namesColumn_of_columnIdentifiers hc⟩

theorem statements_eq (hg : em.Grouped schema entity plan parts) :
    plan.statements = (arrangement parts em entity).statements em.ordering := by
  rw [hg.statements, hg.table, hg.key]
  cases ho : em.ordering <;> simp [arrange, ho, arrangement, Arrangement.statements]

theorem filter_group (hg : em.Grouped schema entity plan parts) (g : Section) :
    plan.statements.filter (·.group = g) = parts g := by
  have hs : ∀ s : Statement, s.group ≠ g → Option.guard (fun s => s.group = g) s = none := by
    intro s hne
    simp [hne]
  have hf := hg.filterMap_statements g hs
  rw [List.filterMap_eq_filter] at hf
  rw [hf, List.filter_eq_self]
  intro s hm
  simp [hg.group_eq hm]

end Grouped

theorem exists_plan_of_ordering (h : em.plan schema entity = .ok plan) (ordering : Ordering) :
    ∃ other parts, { em with ordering }.plan schema entity = .ok other ∧
      em.Grouped schema entity plan parts ∧ { em with ordering }.Grouped schema entity other parts ∧
      { other with statements := plan.statements } = plan := by
  obtain ⟨hn, relationships, indexes, alternateKeys, hr, hi, hk, rfl⟩ := plan_eq_ok_iff.mp h
  refine ⟨_, em.parts entity relationships indexes alternateKeys,
    plan_eq_ok_iff.mpr ⟨hn, relationships, indexes, alternateKeys, hr, hi, hk, rfl⟩,
    ⟨rfl, rfl, rfl, rfl, hr, hi, hk⟩, ⟨rfl, rfl, rfl, rfl, hr, hi, hk⟩, rfl⟩

theorem perm_statements (a : Arrangement) (first second : Ordering) :
    (a.statements first).Perm (a.statements second) := by
  have hp : (a.statements .propertiesFirst).Perm (a.statements .indexesFirst) := by
    simp only [Arrangement.statements, List.append_assoc]
    refine ((?_ : List.Perm _ _).cons a.key).cons a.table
    have hc : ((a.properties ++ a.relationships) ++ (a.indexes ++ a.alternateKeys)).Perm
        ((a.indexes ++ a.alternateKeys) ++ (a.properties ++ a.relationships)) :=
      List.perm_append_comm
    simpa only [List.append_assoc] using hc
  cases first <;> cases second
  · exact .refl _
  · exact hp
  · exact hp.symm
  · exact .refl _

theorem noKey_mem_iff (hg : em.Grouped schema entity plan parts) :
    .noKey ∈ plan.statements ↔ ∀ p ∈ entity.properties, p.isPrimaryKey = false := by
  have hk : Statement.noKey ∈ plan.statements ↔ em.keyStatement entity = .noKey := by
    have hm : Statement.noKey ∈ plan.statements.filter (·.group = .key) ↔
        Statement.noKey ∈ plan.statements := by
      simp [Statement.group]
    rw [← hm, hg.filter_group, hg.key, List.mem_singleton, eq_comm]
  rw [hk, keyStatement_eq]
  have he : em.primaryKey entity = [] ↔ ∀ p ∈ entity.properties, p.isPrimaryKey = false := by
    simp [primaryKey]
  rw [← he]
  constructor
  · intro h
    by_contra hn
    rw [if_neg hn] at h
    cases h
  · exact fun h => if_pos h

/-- The statements of a plan are arranged by the parts of the entity in the chosen order. In any
other order of the groups the entity has a plan too, which differs by a permutation that moves no
statement within its group. -/
theorem arrangement_of_plan (h : em.plan schema entity = .ok plan) :
    (∃ a, em.Arranges entity a ∧ plan.statements = a.statements em.ordering) ∧
    (.noKey ∈ plan.statements ↔ ∀ p ∈ entity.properties, p.isPrimaryKey = false) ∧
    ∀ ordering, ∃ other, { em with ordering }.plan schema entity = .ok other ∧
      other.statements.Perm plan.statements ∧
      (∀ g, other.statements.filter (·.group = g) = plan.statements.filter (·.group = g)) ∧
      { other with statements := plan.statements } = plan := by
  obtain ⟨parts, hg⟩ := exists_grouped h
  refine ⟨⟨_, hg.arranges, hg.statements_eq⟩, noKey_mem_iff hg, fun ordering => ?_⟩
  obtain ⟨other, parts, ho, hg, hg', he⟩ := exists_plan_of_ordering h ordering
  refine ⟨other, ho, ?_, fun g => ?_, he⟩
  · rw [hg.statements_eq, hg'.statements_eq]
    exact perm_statements _ _ _
  · rw [hg.filter_group, hg'.filter_group]

end Emission

namespace Sample

def indexedOrders : Entity :=
  { orders with
    indexes := [{ name := "IX_Lookup", columns := ["customer_id", "Id"], isUnique := true }]
    uniqueConstraints := [{ name := "AK_Date", columns := ["order date"] }] }

def indexedOrdersPlan : MappingPlan :=
  { ordersPlan with
    statements := ordersPlan.statements ++ [
      .index { columns := ["CustomerEntity", "Id"], name := some "IX_Lookup", unique := true },
      .alternateKey ["OrderDate"] "AK_Date"] }

theorem plan_indexedOrders : emission.plan shop indexedOrders = .ok indexedOrdersPlan := by
  decide +kernel

theorem arrangement_indexedOrders : emission.plan shop indexedOrders = .ok indexedOrdersPlan ∧
    (∃ a, emission.Arranges indexedOrders a ∧
      indexedOrdersPlan.statements = a.statements .propertiesFirst) ∧
    ∃ other, { emission with ordering := .indexesFirst }.plan shop indexedOrders = .ok other ∧
      other.statements.Perm indexedOrdersPlan.statements ∧
      ∀ g, other.statements.filter (·.group = g) =
        indexedOrdersPlan.statements.filter (·.group = g) := by
  obtain ⟨ha, -, ho⟩ := Emission.arrangement_of_plan plan_indexedOrders
  obtain ⟨other, hp, hs, hg, -⟩ := ho .indexesFirst
  exact ⟨plan_indexedOrders, ha, other, hp, hs, hg⟩

end Sample

end EntityMapping
