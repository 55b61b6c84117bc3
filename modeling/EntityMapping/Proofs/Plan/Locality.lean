import EntityMapping.Proofs.Plan.Acceptance
import EntityMapping.Proofs.Plan.Statements

/-! # What a plan depends on

Of the other entities of a schema, a plan sees the tables of those that its relationships refer to.
Schemas in which these lookups come out the same give an entity the same plan, or the same failure.
-/

namespace EntityMapping

namespace Schema

def tableOf? (s : Schema) (className : String) : Option String :=
  (s.entity? className).map (·.tableName)

def tables (s : Schema) : List (String × String) :=
  s.entities.map fun e => (e.entityClass, e.tableName)

variable {s t : Schema} {className : String}

theorem tableOf?_eq_find? :
    s.tableOf? className = (s.tables.find? (·.1 == className)).map Prod.snd := by
  rw [tableOf?, entity?, tables, List.find?_map, Option.map_map]
  rfl

theorem entity?_append {e : Entity} (h : s.entity? className = some e) (more : List Entity) :
    entity? ⟨s.entities ++ more⟩ className = some e := by
  rw [entity?] at h
  rw [entity?, List.find?_append, h]
  rfl

end Schema

namespace Emission

open Outcome

variable {em : Emission} {s t : Schema} {entity : Entity} {plan : MappingPlan} {r : Relationship}

theorem relationshipStatement_congr
    (h : s.tableOf? r.primaryEntity = t.tableOf? r.primaryEntity) :
    em.relationshipStatement s entity r = em.relationshipStatement t entity r := by
  unfold Schema.tableOf? at h
  unfold relationshipStatement
  cases hs : s.entity? r.primaryEntity with
  | none =>
    have ht : t.entity? r.primaryEntity = none := by simpa [hs] using h.symm
    rw [ht]
  | some principal =>
    obtain ⟨other, ht, hn⟩ : ∃ e, t.entity? r.primaryEntity = some e ∧
        e.tableName = principal.tableName := by simpa [hs] using h.symm
    simp only [ht, hn]

theorem plan_congr
    (h : ∀ r ∈ entity.relationships, r.isMapped →
      s.tableOf? r.primaryEntity = t.tableOf? r.primaryEntity) :
    em.plan s entity = em.plan t entity := by
  have hr : (entity.relationships.filter (·.isMapped)).mapM (em.relationshipStatement s entity) =
      (entity.relationships.filter (·.isMapped)).mapM (em.relationshipStatement t entity) := by
    refine mapM_congr fun r hm => relationshipStatement_congr ?_
    exact h r (List.mem_filter.mp hm).1 (List.mem_filter.mp hm).2
  unfold Emission.plan
  rw [hr]

theorem exists_principal_of_plan (h : em.plan s entity = .ok plan) (hm : r ∈ entity.relationships)
    (hr : r.isMapped) : ∃ principal, s.entity? r.primaryEntity = some principal := by
  obtain ⟨-, relationships, _, _, hs, -⟩ := plan_eq_ok_iff.mp h
  obtain ⟨statement, hs⟩ := exists_ok_of_mapM hs (List.mem_filter.mpr ⟨hm, hr⟩)
  obtain ⟨-, principal, _, _, _, _, hp, -⟩ := relationshipStatement_eq_ok_iff.mp hs
  exact ⟨principal, hp⟩

/-- A plan stays the same, and so does a failure, as long as the tables stay the same that the
mapped relationships of the entity find. So it is where entities come after those of the schema,
if there is a plan, and where entities differ in nothing but what belongs to neither their class
name nor their table. -/
theorem plan_local (em : Emission) (entity : Entity) :
    (∀ s t : Schema, (∀ r ∈ entity.relationships, r.isMapped →
        s.tableOf? r.primaryEntity = t.tableOf? r.primaryEntity) →
      em.plan s entity = em.plan t entity) ∧
    (∀ (s : Schema) (more : List Entity) (plan : MappingPlan), em.plan s entity = .ok plan →
      em.plan ⟨s.entities ++ more⟩ entity = .ok plan) ∧
    ∀ s t : Schema, s.tables = t.tables → em.plan s entity = em.plan t entity := by
  refine ⟨fun s t h => plan_congr h, fun s more plan h => ?_, fun s t h => ?_⟩
  · rw [← h]
    refine plan_congr fun r hm hr => ?_
    obtain ⟨principal, hp⟩ := exists_principal_of_plan h hm hr
    rw [Schema.tableOf?, Schema.tableOf?, Schema.entity?_append hp, hp]
  · refine plan_congr fun r _ _ => ?_
    rw [Schema.tableOf?_eq_find?, Schema.tableOf?_eq_find?, h]

end Emission

namespace Sample

def bareShop : Schema :=
  ⟨shop.entities.map fun e =>
    { entityClass := e.entityClass, mappingClass := "", tableName := e.tableName }⟩

/-- Customers without columns that nothing else in the shop is like, and a second table of them
after the one that a lookup finds. -/
def branch : Schema :=
  ⟨[{ customers with
      entityNamespace := "Branch", mappingClass := "", properties := [], isView := true },
    { customers with tableName := "Clients" }]⟩

theorem plan_local_orders :
    (∀ r ∈ orders.relationships, r.isMapped →
      shop.tableOf? r.primaryEntity = branch.tableOf? r.primaryEntity) ∧
    emission.plan branch orders = .ok ordersPlan ∧
    emission.plan ⟨shop.entities ++ branch.entities⟩ orders = .ok ordersPlan ∧
    emission.plan bareShop orders = .ok ordersPlan := by
  obtain ⟨footprint, append, tables⟩ := emission.plan_local orders
  have h : ∀ r ∈ orders.relationships, r.isMapped →
      shop.tableOf? r.primaryEntity = branch.tableOf? r.primaryEntity := by decide
  refine ⟨h, ?_, append shop branch.entities ordersPlan plan_orders, ?_⟩
  · rw [← footprint shop branch h, plan_orders]
  · rw [← tables shop bareShop rfl, plan_orders]

end Sample

end EntityMapping
