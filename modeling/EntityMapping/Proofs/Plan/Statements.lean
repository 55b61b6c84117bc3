import EntityMapping.Plan.Emission
import EntityMapping.Proofs.Outcome

/-! # The statements of a plan

Everything that a plan holds is known from the entity: each of its steps is told by the parts that
it succeeds with, and the statements of one kind are those of the parts of one kind, whatever the
order of the groups.
-/

namespace EntityMapping

namespace Statement

def property? : Statement → Option (String × List Directive)
  | property name directives => some (name, directives)
  | _ => none

def relationship? : Statement → Option RelationshipBinding
  | relationship binding => some binding
  | _ => none

def index? : Statement → Option IndexBinding
  | index binding => some binding
  | _ => none

def alternateKey? : Statement → Option (List String × String)
  | alternateKey columns name => some (columns, name)
  | _ => none

theorem property?_eq_none (s : Statement) (h : s.group ≠ .properties) : s.property? = none := by
  cases s with
  | property => exact (h rfl).elim
  | _ => rfl

theorem relationship?_eq_none (s : Statement) (h : s.group ≠ .relationships) :
    s.relationship? = none := by
  cases s with
  | relationship => exact (h rfl).elim
  | _ => rfl

theorem index?_eq_none (s : Statement) (h : s.group ≠ .indexes) : s.index? = none := by
  cases s with
  | index => exact (h rfl).elim
  | _ => rfl

theorem alternateKey?_eq_none (s : Statement) (h : s.group ≠ .alternateKeys) :
    s.alternateKey? = none := by
  cases s with
  | alternateKey => exact (h rfl).elim
  | _ => rfl

end Statement

namespace MappingPlan

def propertyBindings (plan : MappingPlan) : List (String × List Directive) :=
  plan.statements.filterMap Statement.property?

def relationshipBindings (plan : MappingPlan) : List RelationshipBinding :=
  plan.statements.filterMap Statement.relationship?

def indexBindings (plan : MappingPlan) : List IndexBinding :=
  plan.statements.filterMap Statement.index?

def alternateKeyBindings (plan : MappingPlan) : List (List String × String) :=
  plan.statements.filterMap Statement.alternateKey?

end MappingPlan

namespace Emission

open Outcome

variable {em : Emission} {schema : Schema} {entity : Entity} {plan : MappingPlan}
  {statement : Statement}

theorem inflected_eq_ok_iff {α : Type} {r : Except Inflection.CaseFault α} {a : α} :
    inflected r = .ok a ↔ r = .ok a :=
  mapError_eq_ok_iff

theorem keyIdentifier_eq_ok_iff {label : RelationshipLabel} {name identifier : String} :
    em.keyIdentifier entity label name = .ok identifier ↔
      ∃ p, entity.property? name = some p ∧
        em.naming.foreignKey p.propertyName = .ok identifier := by
  unfold keyIdentifier
  cases entity.property? name <;> simp [inflected_eq_ok_iff]

theorem relationshipStatement_eq_ok_iff {r : Relationship} :
    em.relationshipStatement schema entity r = .ok statement ↔
      r.properties ≠ [] ∧
      ∃ principal foreignKey predicted navigation principalNavigation,
        schema.entity? r.primaryEntity = some principal ∧
        r.properties.mapM (em.keyIdentifier entity (.of r)) = .ok foreignKey ∧
        DefaultName.foreignKey entity.tableSchema entity.tableName principal.tableName =
          .ok predicted ∧
        em.naming.navigation r.propertyName .one = .ok navigation ∧
        em.naming.navigation r.primaryPropertyName r.primaryCardinality =
          .ok principalNavigation ∧
        statement = .relationship {
          navigation, principalNavigation, foreignKey
          cardinality := r.primaryCardinality
          oneToOne := r.isOneToOne
          constraintName :=
            r.relationshipName.filter fun name => DefaultName.needsOverride name predicted } := by
  unfold relationshipStatement
  by_cases hn : r.properties = []
  · simp only [hn, List.isEmpty_nil, if_true]
    exact ⟨nofun, fun h => (h.1 rfl).elim⟩
  simp only [List.isEmpty_iff, hn, if_false]
  cases hp : schema.entity? r.primaryEntity with
  | none => exact ⟨nofun, fun ⟨_, _, _, _, _, _, h, _⟩ => by cases h⟩
  | some principal =>
    simp only [bind_eq_ok_iff, inflected_eq_ok_iff, pure_eq_ok_iff]
    constructor
    · rintro ⟨foreignKey, hk, predicted, hd, navigation, hv, principalNavigation, hpv, rfl⟩
      exact ⟨hn, principal, foreignKey, predicted, navigation, principalNavigation, rfl, hk, hd,
        hv, hpv, rfl⟩
    · rintro ⟨-, _, foreignKey, predicted, navigation, principalNavigation, h, hk, hd, hv, hpv, rfl⟩
      cases h
      exact ⟨foreignKey, hk, predicted, hd, navigation, hv, principalNavigation, hpv, rfl⟩

theorem indexStatement_eq_ok_iff {i : Index} :
    em.indexStatement entity i = .ok statement ↔
      ∃ columns, em.columnIdentifiers entity .index i.name i.columns = .ok columns ∧
        statement = .index {
          columns
          name := if DefaultName.needsOverride i.name (DefaultName.index entity.tableName i.columns)
            then some i.name else none
          filter := nonBlank i.filter
          unique := i.isUnique } := by
  simp only [indexStatement, bind_eq_ok_iff, pure_eq_ok_iff]

theorem alternateKeyStatement_eq_ok_iff {c : UniqueConstraint} :
    em.alternateKeyStatement entity c = .ok statement ↔
      ∃ columns, em.columnIdentifiers entity .uniqueConstraint c.name c.columns = .ok columns ∧
        statement = .alternateKey columns c.name := by
  simp only [alternateKeyStatement, bind_eq_ok_iff, pure_eq_ok_iff]

theorem plan_eq_ok_iff :
    em.plan schema entity = .ok plan ↔
      firstRepeated [] (entity.properties.map (·.propertyName)) = none ∧
      ∃ relationships indexes alternateKeys,
        (entity.relationships.filter (·.isMapped)).mapM (em.relationshipStatement schema entity) =
          .ok relationships ∧
        entity.indexes.mapM (em.indexStatement entity) = .ok indexes ∧
        entity.uniqueConstraints.mapM (em.alternateKeyStatement entity) = .ok alternateKeys ∧
        plan = {
          entityClass := entity.entityClass
          entityNamespace := entity.entityNamespace
          mappingClass := entity.mappingClass
          mappingNamespace := entity.mappingNamespace
          statements := tableStatement entity :: em.keyStatement entity ::
            em.arrange (em.propertyStatements entity) relationships indexes alternateKeys
          constants := if em.withConstants then some (em.constants entity) else none } := by
  unfold Emission.plan
  cases firstRepeated [] (entity.properties.map (·.propertyName)) with
  | some name => exact ⟨nofun, fun h => by cases h.1⟩
  | none =>
    simp only [bind_eq_ok_iff, pure_eq_ok_iff, true_and]
    constructor
    · rintro ⟨relationships, hr, indexes, hi, alternateKeys, hk, rfl⟩
      exact ⟨relationships, indexes, alternateKeys, hr, hi, hk, rfl⟩
    · rintro ⟨relationships, indexes, alternateKeys, hr, hi, hk, rfl⟩
      exact ⟨relationships, hr, indexes, hi, alternateKeys, hk, rfl⟩

/-! ## Statements and their groups -/

theorem group_tableStatement : (tableStatement entity).group = .table := by
  unfold tableStatement
  split <;> rfl

theorem group_keyStatement : (em.keyStatement entity).group = .key := by
  unfold keyStatement
  split <;> rfl

theorem group_of_mem_propertyStatements (h : statement ∈ em.propertyStatements entity) :
    statement.group = .properties := by
  obtain ⟨p, -, hp⟩ := List.mem_filterMap.mp h
  unfold propertyStatement? at hp
  split at hp
  · cases hp
  · cases hp
    rfl

theorem group_relationshipStatement {r : Relationship}
    (h : em.relationshipStatement schema entity r = .ok statement) :
    statement.group = .relationships := by
  obtain ⟨-, _, _, _, _, _, -, -, -, -, -, rfl⟩ := relationshipStatement_eq_ok_iff.mp h
  rfl

theorem group_indexStatement {i : Index} (h : em.indexStatement entity i = .ok statement) :
    statement.group = .indexes := by
  obtain ⟨_, -, rfl⟩ := indexStatement_eq_ok_iff.mp h
  rfl

theorem group_alternateKeyStatement {c : UniqueConstraint}
    (h : em.alternateKeyStatement entity c = .ok statement) :
    statement.group = .alternateKeys := by
  obtain ⟨_, -, rfl⟩ := alternateKeyStatement_eq_ok_iff.mp h
  rfl

def parts (em : Emission) (entity : Entity) (relationships indexes alternateKeys : List Statement) :
    Section → List Statement
  | .table => [tableStatement entity]
  | .key => [em.keyStatement entity]
  | .properties => em.propertyStatements entity
  | .relationships => relationships
  | .indexes => indexes
  | .alternateKeys => alternateKeys

/-- The statements of a plan by their groups. -/
structure Grouped (em : Emission) (schema : Schema) (entity : Entity) (plan : MappingPlan)
    (parts : Section → List Statement) : Prop where
  statements : plan.statements = parts .table ++ parts .key ++ em.arrange (parts .properties)
    (parts .relationships) (parts .indexes) (parts .alternateKeys)
  table : parts .table = [tableStatement entity]
  key : parts .key = [em.keyStatement entity]
  properties : parts .properties = em.propertyStatements entity
  relationships : (entity.relationships.filter (·.isMapped)).mapM
    (em.relationshipStatement schema entity) = .ok (parts .relationships)
  indexes : entity.indexes.mapM (em.indexStatement entity) = .ok (parts .indexes)
  alternateKeys : entity.uniqueConstraints.mapM (em.alternateKeyStatement entity) =
    .ok (parts .alternateKeys)

theorem exists_grouped (h : em.plan schema entity = .ok plan) :
    ∃ parts, em.Grouped schema entity plan parts := by
  obtain ⟨-, relationships, indexes, alternateKeys, hr, hi, hk, rfl⟩ := plan_eq_ok_iff.mp h
  exact ⟨em.parts entity relationships indexes alternateKeys, rfl, rfl, rfl, rfl, hr, hi, hk⟩

namespace Grouped

variable {parts : Section → List Statement} {g : Section}

theorem group_eq (hg : em.Grouped schema entity plan parts) (hs : statement ∈ parts g) :
    statement.group = g := by
  cases g with
  | table =>
    rw [hg.table, List.mem_singleton] at hs
    rw [hs, group_tableStatement]
  | key =>
    rw [hg.key, List.mem_singleton] at hs
    rw [hs, group_keyStatement]
  | properties => exact group_of_mem_propertyStatements (hg.properties ▸ hs)
  | relationships =>
    obtain ⟨r, -, hr⟩ := exists_of_mem_mapM hg.relationships hs
    exact group_relationshipStatement hr
  | indexes =>
    obtain ⟨i, -, hi⟩ := exists_of_mem_mapM hg.indexes hs
    exact group_indexStatement hi
  | alternateKeys =>
    obtain ⟨c, -, hc⟩ := exists_of_mem_mapM hg.alternateKeys hs
    exact group_alternateKeyStatement hc

/-- What is selected within one group is selected from that group, whatever the order. -/
theorem filterMap_statements {γ : Type} {select : Statement → Option γ}
    (hg : em.Grouped schema entity plan parts) (g : Section)
    (hs : ∀ s, s.group ≠ g → select s = none) :
    plan.statements.filterMap select = (parts g).filterMap select := by
  have hnil : ∀ g', g' ≠ g → (parts g').filterMap select = [] := fun g' hne =>
    List.filterMap_eq_nil_iff.mpr fun s hm => hs s (by rwa [hg.group_eq hm])
  rw [hg.statements]
  cases ho : em.ordering <;> cases g <;> simp [arrange, ho, hnil]

end Grouped

theorem filterMap_propertyStatements :
    (em.propertyStatements entity).filterMap Statement.property? =
      (entity.properties.map fun p => (em.identifier p, p.directives (em.identifier p))).filter
        fun b => b.2 ≠ [] := by
  unfold propertyStatements
  induction entity.properties with
  | nil => rfl
  | cons p ps ih =>
    cases hd : p.directives (em.identifier p) with
    | nil => simpa [propertyStatement?, hd] using ih
    | cons d ds => simpa [propertyStatement?, hd, Statement.property?] using ih

theorem propertyBindings_of_plan (h : em.plan schema entity = .ok plan) :
    plan.propertyBindings =
      (entity.properties.map fun p => (em.identifier p, p.directives (em.identifier p))).filter
        fun b => b.2 ≠ [] := by
  obtain ⟨parts, hg⟩ := exists_grouped h
  rw [MappingPlan.propertyBindings, hg.filterMap_statements .properties Statement.property?_eq_none,
    hg.properties, filterMap_propertyStatements]

theorem relationshipBindings_of_plan (h : em.plan schema entity = .ok plan) :
    List.Forall₂ (fun r b => em.relationshipStatement schema entity r = .ok (.relationship b))
      (entity.relationships.filter (·.isMapped)) plan.relationshipBindings := by
  obtain ⟨parts, hg⟩ := exists_grouped h
  rw [MappingPlan.relationshipBindings,
    hg.filterMap_statements .relationships Statement.relationship?_eq_none]
  refine forall₂_filterMap_of_mapM hg.relationships fun r s hs => ?_
  obtain ⟨-, _, _, _, _, _, -, -, -, -, -, rfl⟩ := relationshipStatement_eq_ok_iff.mp hs
  exact ⟨_, rfl, hs⟩

theorem indexBindings_of_plan (h : em.plan schema entity = .ok plan) :
    List.Forall₂ (fun i b => em.indexStatement entity i = .ok (.index b))
      entity.indexes plan.indexBindings := by
  obtain ⟨parts, hg⟩ := exists_grouped h
  rw [MappingPlan.indexBindings, hg.filterMap_statements .indexes Statement.index?_eq_none]
  refine forall₂_filterMap_of_mapM hg.indexes fun i s hs => ?_
  obtain ⟨_, -, rfl⟩ := indexStatement_eq_ok_iff.mp hs
  exact ⟨_, rfl, hs⟩

theorem alternateKeyBindings_of_plan (h : em.plan schema entity = .ok plan) :
    List.Forall₂ (fun c b => em.alternateKeyStatement entity c = .ok (.alternateKey b.1 b.2))
      entity.uniqueConstraints plan.alternateKeyBindings := by
  obtain ⟨parts, hg⟩ := exists_grouped h
  rw [MappingPlan.alternateKeyBindings,
    hg.filterMap_statements .alternateKeys Statement.alternateKey?_eq_none]
  refine forall₂_filterMap_of_mapM hg.alternateKeys fun c s hs => ?_
  obtain ⟨columns, -, rfl⟩ := alternateKeyStatement_eq_ok_iff.mp hs
  exact ⟨(columns, c.name), rfl, hs⟩

end Emission

end EntityMapping
