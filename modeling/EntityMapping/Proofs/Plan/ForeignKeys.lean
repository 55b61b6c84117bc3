import EntityMapping.Proofs.Naming.Suffix
import EntityMapping.Proofs.Plan.Columns

/-! # Properties in foreign keys

A foreign key refers to a property by its name without the suffix of types, while the property
itself is bound under its whole name. The two agree for every name that the suffix leaves alone.
-/

namespace EntityMapping

namespace Naming.Policy

variable {p : Policy} {raw identifier : String}

theorem foreignKey_eq_ok_iff :
    p.foreignKey raw = .ok identifier ↔
      ∃ rest, stripSuffix raw p.suffix = .ok rest ∧ identifier = p.property rest := by
  unfold foreignKey
  cases stripSuffix raw p.suffix <;> simp [Functor.map, Except.map, property, eq_comm]

end Naming.Policy

namespace Emission

open Naming Outcome

variable {em : Emission} {schema : Schema} {entity : Entity} {plan : MappingPlan}
  {name identifier : String}

/-- How a foreign key of a plan refers to a property. -/
structure KeyReference (em : Emission) (entity : Entity) (plan : MappingPlan)
    (name identifier : String) : Prop where
  known : entity.HasProperty name
  shed : ∀ rest, Sheds em.naming.suffix name rest → identifier = em.naming.property rest
  bound_iff : identifier = em.naming.property name ↔
    ∀ rest, Sheds em.naming.suffix name rest → em.naming.Confuses rest name
  listed : identifier = em.naming.property name → ∀ constants, plan.constants = some constants →
    identifier ∈ constants.columns.map Prod.fst

theorem mem_constants_of_plan (h : em.plan schema entity = .ok plan) {p : Property}
    (hp : p ∈ entity.properties) {constants : TableConstants}
    (hc : plan.constants = some constants) :
    em.identifier p ∈ constants.columns.map Prod.fst := by
  obtain ⟨-, _, _, _, -, -, -, rfl⟩ := plan_eq_ok_iff.mp h
  dsimp only at hc
  split at hc
  · obtain rfl := Option.some.inj hc
    exact List.mem_map_of_mem (List.mem_map_of_mem hp)
  · cases hc

theorem keyReference_of_keyIdentifier (h : em.plan schema entity = .ok plan)
    {label : RelationshipLabel} (hk : em.keyIdentifier entity label name = .ok identifier) :
    em.KeyReference entity plan name identifier := by
  obtain ⟨p, hp, hf⟩ := keyIdentifier_eq_ok_iff.mp hk
  obtain ⟨hm, rfl⟩ := Entity.mem_of_property? hp
  obtain ⟨rest, hs, rfl⟩ := Policy.foreignKey_eq_ok_iff.mp hf
  have hu : ∀ x, Sheds em.naming.suffix p.propertyName x → x = rest := by
    intro x hx
    exact Except.ok.inj ((stripSuffix_of_sheds hx).symm.trans hs)
  refine ⟨⟨p, hm, rfl⟩, fun x hx => by rw [hu x hx], ?_, fun he constants hc => ?_⟩
  · rw [Policy.property_eq_property_iff]
    constructor
    · intro hc x hx
      rwa [hu x hx]
    · intro hc
      by_cases hr : rest = p.propertyName
      · rw [← Policy.property_eq_property_iff, hr]
      · exact hc rest (sheds_iff.mpr ⟨hr, hs⟩)
  · rw [he]
    exact mem_constants_of_plan h hm hc

/-- The foreign keys of a plan follow those of the mapped relationships, name by name. -/
theorem foreignKeys_of_plan (h : em.plan schema entity = .ok plan) :
    List.Forall₂ (fun r b => List.Forall₂ (em.KeyReference entity plan) r.properties b.foreignKey)
      (entity.relationships.filter (·.isMapped)) plan.relationshipBindings := by
  refine (relationshipBindings_of_plan h).imp fun r b hb => ?_
  obtain ⟨-, _, foreignKey, _, _, _, -, hk, -, -, -, he⟩ := relationshipStatement_eq_ok_iff.mp hb
  obtain rfl := Statement.relationship.inj he
  exact (mapM_eq_ok_iff.mp hk).imp fun name identifier hi => keyReference_of_keyIdentifier h hi

open Sample in
theorem sheds_without_confusion :
    emission.plan shop orders = .ok ordersPlan ∧
      ¬ ∀ rest, Sheds "Entity" "CustomerEntity" rest →
        emission.naming.Confuses rest "CustomerEntity" := by
  have hr := (List.forall₂_cons.mp (foreignKeys_of_plan plan_orders)).1
  have hk := (List.forall₂_cons.mp hr).1
  exact ⟨plan_orders, fun hc => absurd (hk.bound_iff.mpr hc) (by decide +kernel)⟩

open Sample in
theorem foreignKey_ne_property :
    emission.plan shop orders = .ok ordersPlan ∧
      ¬ List.Forall₂ (fun r b => List.Forall₂
          (fun name identifier => identifier = emission.naming.property name)
          r.properties b.foreignKey)
        (orders.relationships.filter (·.isMapped)) ordersPlan.relationshipBindings := by
  refine ⟨plan_orders, fun h => ?_⟩
  have hk := (List.forall₂_cons.mp (List.forall₂_cons.mp h).1).1
  exact absurd hk (by decide +kernel)

end Emission

end EntityMapping
