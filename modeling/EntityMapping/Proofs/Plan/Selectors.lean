import EntityMapping.Proofs.Plan.Arrangement
import EntityMapping.Proofs.Plan.ForeignKeys
import EntityMapping.Proofs.Related

/-! # Members of composite selectors

A selector names each of its members once, as long as no two entries of the list behind it stand
for one member. A listed column does so together with the name of its own property, and a key name
that loses its suffix does so together with a name like what is left of it. So a list of columns
alone names none twice, and neither does one of keys that have no suffix to lose.
-/

namespace EntityMapping

/-! ## Names that are alike without their suffix -/

namespace Naming

/-- What is left of a name, the whole of it where it has no suffix to lose. -/
def Keeps (suffix raw rest : String) : Prop :=
  Sheds suffix raw rest ∨ rest = raw ∧ ∀ x, ¬ Sheds suffix raw x

theorem keeps_iff_of_stripSuffix {suffix raw rest kept : String}
    (h : stripSuffix raw suffix = .ok kept) : Keeps suffix raw rest ↔ rest = kept := by
  have hs : ∀ x, Sheds suffix raw x ↔ x ≠ raw ∧ x = kept := by
    intro x
    rw [sheds_iff, h, Except.ok.injEq, eq_comm (a := kept)]
  unfold Keeps
  simp only [hs]
  by_cases hk : kept = raw
  · simp [hk]
  · constructor
    · rintro (⟨-, rfl⟩ | ⟨-, hx⟩)
      · rfl
      · exact (hx kept ⟨hk, rfl⟩).elim
    · rintro rfl
      exact .inl ⟨hk, rfl⟩

/-- The first name loses its suffix and is then confused with what is left of the second. -/
def Policy.Merges (p : Policy) (a b : String) : Prop :=
  ∃ x y, Sheds p.suffix a x ∧ Keeps p.suffix b y ∧ p.Confuses x y

end Naming

/-- The property is listed both by its column and by its own name. -/
def Entity.ListsTwice (entity : Entity) (columns : List String) (p : Property) : Prop :=
  p.columnName ≠ p.propertyName ∧
    (p.columnName ∈ columns ∧ entity.propertyForColumn? p.columnName = some p) ∧
    (p.propertyName ∈ columns ∧ entity.propertyForColumn? p.propertyName = some p)

/-- A column is listed, and so is an entry that is no column. -/
def Entity.Mixes (entity : Entity) (columns : List String) : Prop :=
  (∃ c ∈ columns, entity.IsColumn c) ∧ ∃ c ∈ columns, ¬ entity.IsColumn c

theorem Entity.ListsTwice.mixes {entity : Entity} {columns : List String} {p : Property}
    (h : entity.ListsTwice columns p) : entity.Mixes columns := by
  obtain ⟨hne, ⟨hc, hp⟩, hn, hp'⟩ := h
  have hcolumn := (columnName_eq_iff_of_propertyForColumn? hp).mp rfl
  have hname := (columnName_eq_iff_of_propertyForColumn? hp').not.mp hne
  exact ⟨⟨_, hc, hcolumn⟩, _, hn, hname⟩

namespace Emission

open Naming Outcome

variable {em : Emission} {schema : Schema} {entity : Entity} {plan : MappingPlan}
  {names columns identifiers : List String}

theorem columns_nodup_iff (hn : (entity.properties.map em.identifier).Nodup)
    (h : List.Forall₂ (em.NamesColumn entity) columns identifiers) (hc : columns.Nodup) :
    identifiers.Nodup ↔ ∀ p ∈ entity.properties, ¬ entity.ListsTwice columns p := by
  have hu : Relator.RightUnique (em.NamesColumn entity) := by
    rintro column _ _ ⟨p, hp, rfl⟩ ⟨q, hq, rfl⟩
    rw [Option.some.inj (hp.symm.trans hq)]
  rw [nodup_iff_of_forall₂ h hc hu]
  constructor
  · rintro hi p - ⟨hne, ⟨hcm, hcp⟩, hnm, hnp⟩
    exact hne (hi _ hcm _ hnm _ ⟨p, hcp, rfl⟩ ⟨p, hnp, rfl⟩)
  · rintro hl c hcm d hdm _ ⟨p, hp, rfl⟩ ⟨q, hq, hpq⟩
    obtain ⟨hpm, hpc⟩ := Entity.mem_of_propertyForColumn? hp
    obtain ⟨hqm, hqc⟩ := Entity.mem_of_propertyForColumn? hq
    obtain rfl := List.inj_on_of_nodup_map hn hpm hqm hpq
    -- One property under two entries is found by its column under the one and by its name under
    -- the other.
    by_contra hne
    rcases hpc with rfl | rfl <;> rcases hqc with rfl | rfl
    · exact hne rfl
    · exact hl p hpm ⟨hne, ⟨hcm, hp⟩, hdm, hq⟩
    · exact hl p hpm ⟨Ne.symm hne, ⟨hdm, hq⟩, hcm, hp⟩
    · exact hne rfl

theorem columns_nodup_of_not_mixes (hn : (entity.properties.map em.identifier).Nodup)
    (h : List.Forall₂ (em.NamesColumn entity) columns identifiers) (hc : columns.Nodup)
    (hm : ¬ entity.Mixes columns) : identifiers.Nodup :=
  (columns_nodup_iff hn h hc).mpr fun _ _ hl => hm hl.mixes

theorem foreignKey_nodup_iff (hn : (entity.properties.map em.identifier).Nodup)
    (h : List.Forall₂ (em.NamesKey entity) names identifiers) (hk : names.Nodup) :
    identifiers.Nodup ↔ ∀ a ∈ names, ∀ b ∈ names, a ≠ b → ¬ em.naming.Merges a b := by
  have hu : Relator.RightUnique (em.NamesKey entity) := by
    rintro name b b' ⟨p, hp, hb⟩ ⟨q, hq, hb'⟩
    rw [Option.some.inj (hp.symm.trans hq)] at hb
    exact Except.ok.inj (hb.symm.trans hb')
  have hr : ∀ name b, em.NamesKey entity name b → entity.HasProperty name ∧
      ∃ rest, stripSuffix name em.naming.suffix = .ok rest ∧ b = em.naming.property rest := by
    rintro name b ⟨p, hp, hb⟩
    obtain ⟨hm, rfl⟩ := Entity.mem_of_property? hp
    exact ⟨⟨p, hm, rfl⟩, Policy.foreignKey_eq_ok_iff.mp hb⟩
  rw [nodup_iff_of_forall₂ h hk hu]
  constructor
  · rintro hi a ha b hb hne ⟨x, y, hx, hy, hc⟩
    obtain ⟨i, hai⟩ := exists_of_mem_forall₂ h ha
    obtain ⟨j, hbj⟩ := exists_of_mem_forall₂ h hb
    obtain ⟨-, rest, hs, rfl⟩ := hr a i hai
    obtain ⟨-, rest', hs', rfl⟩ := hr b j hbj
    obtain rfl := (keeps_iff_of_stripSuffix hs).mp (.inl hx)
    obtain rfl := (keeps_iff_of_stripSuffix hs').mp hy
    rw [← Policy.property_eq_property_iff.mpr hc] at hbj
    exact hne (hi a ha b hb _ hai hbj)
  · rintro hm a ha b hb i hai hbi
    obtain ⟨⟨p, hp, rfl⟩, rest, hs, rfl⟩ := hr a i hai
    obtain ⟨⟨q, hq, rfl⟩, rest', hs', hi⟩ := hr b _ hbi
    have hk := (keeps_iff_of_stripSuffix hs).mpr rfl
    have hk' := (keeps_iff_of_stripSuffix hs').mpr rfl
    by_contra hne
    rcases hk with hx | ⟨rfl, -⟩
    · exact hm _ ha _ hb hne ⟨rest, rest', hx, hk', Policy.property_eq_property_iff.mp hi⟩
    rcases hk' with hy | ⟨rfl, -⟩
    · exact hm _ hb _ ha (Ne.symm hne)
        ⟨rest', _, hy, (keeps_iff_of_stripSuffix hs).mpr rfl,
          Policy.property_eq_property_iff.mp hi.symm⟩
    · exact hne (congrArg _ (List.inj_on_of_nodup_map hn hp hq hi))

theorem foreignKey_nodup_of_not_sheds (hn : (entity.properties.map em.identifier).Nodup)
    (h : List.Forall₂ (em.NamesKey entity) names identifiers) (hk : names.Nodup)
    (hs : ∀ x ∈ names, ∀ rest, ¬ Sheds em.naming.suffix x rest) : identifiers.Nodup := by
  refine (foreignKey_nodup_iff hn h hk).mpr ?_
  rintro x hx y - - ⟨rest, -, hr, -⟩
  exact hs x hx rest hr

/-- Where the identifiers of the properties differ, the members of a selector without a repeated
entry differ unless a property is listed by its column and by its name, or two key names are alike
without their suffix. The former takes a list of columns and other entries, the latter a key name
with something before the suffix or its plural. -/
theorem selectors_nodup_iff (h : em.plan schema entity = .ok plan)
    (hn : (entity.properties.map em.identifier).Nodup) :
    List.Forall₂ (fun i b => i.columns.Nodup →
        (b.columns.Nodup ↔ ∀ p ∈ entity.properties, ¬ entity.ListsTwice i.columns p) ∧
        (¬ entity.Mixes i.columns → b.columns.Nodup))
      entity.indexes plan.indexBindings ∧
    List.Forall₂ (fun c b => c.columns.Nodup →
        (b.1.Nodup ↔ ∀ p ∈ entity.properties, ¬ entity.ListsTwice c.columns p) ∧
        (¬ entity.Mixes c.columns → b.1.Nodup))
      entity.uniqueConstraints plan.alternateKeyBindings ∧
    List.Forall₂ (fun r b => r.properties.Nodup →
        (b.foreignKey.Nodup ↔
          ∀ x ∈ r.properties, ∀ y ∈ r.properties, x ≠ y → ¬ em.naming.Merges x y) ∧
        ((∀ x ∈ r.properties, ∀ rest, ¬ Sheds em.naming.suffix x rest) → b.foreignKey.Nodup))
      (entity.relationships.filter (·.isMapped)) plan.relationshipBindings := by
  refine ⟨?_, ?_, ?_⟩
  · refine (indexBindings_of_plan h).imp fun i b hb hc => ?_
    obtain ⟨identifiers, hi, he⟩ := indexStatement_eq_ok_iff.mp hb
    obtain rfl := Statement.index.inj he
    have hl := namesColumn_of_columnIdentifiers hi
    exact ⟨columns_nodup_iff hn hl hc, columns_nodup_of_not_mixes hn hl hc⟩
  · refine (alternateKeyBindings_of_plan h).imp fun c b hb hc => ?_
    obtain ⟨identifiers, hi, he⟩ := alternateKeyStatement_eq_ok_iff.mp hb
    obtain ⟨rfl, -⟩ := Statement.alternateKey.inj he
    have hl := namesColumn_of_columnIdentifiers hi
    exact ⟨columns_nodup_iff hn hl hc, columns_nodup_of_not_mixes hn hl hc⟩
  · refine (relationshipBindings_of_plan h).imp fun r b hb hk => ?_
    obtain ⟨_, he, hr⟩ := relates_of_relationshipStatement hb
    obtain rfl := Statement.relationship.inj he
    exact ⟨foreignKey_nodup_iff hn hr.foreignKey hk,
      foreignKey_nodup_of_not_sheds hn hr.foreignKey hk⟩

end Emission

namespace Sample

open Naming

def doubledOrders : Entity where
  entityClass := "OrderEntity"
  mappingClass := "OrderMapping"
  tableName := "Orders"
  properties := [
    { propertyName := "Id", columnName := "id", isPrimaryKey := true },
    { propertyName := "CustomerEntity", columnName := "customer_id" },
    { propertyName := "Customer", columnName := "customer_region" }]
  relationships := [{ toCustomer with properties := ["CustomerEntity", "Customer"] }]
  indexes := [{ name := "IX_Customer", columns := ["customer_id", "CustomerEntity"] }]
  uniqueConstraints := [{ name := "AK_Customer", columns := ["id", "Id"] }]

def doubledOrdersPlan : MappingPlan where
  entityClass := "OrderEntity"
  mappingClass := "OrderMapping"
  statements := [
    .table "Orders" none,
    .key ["Id"],
    .property "Id" [.columnName "id"],
    .property "CustomerEntity" [.columnName "customer_id"],
    .property "Customer" [.columnName "customer_region"],
    .relationship {
      navigation := "Customer"
      cardinality := .many
      principalNavigation := "Orders"
      foreignKey := ["Customer", "Customer"] },
    .index { columns := ["CustomerEntity", "CustomerEntity"], name := some "IX_Customer" },
    .alternateKey ["Id", "Id"] "AK_Customer"]
  constants := some {
    name := "Orders"
    columns := [("Id", "id"), ("CustomerEntity", "customer_id"), ("Customer", "customer_region")] }

theorem plan_doubledOrders : emission.plan shop doubledOrders = .ok doubledOrdersPlan := by
  decide +kernel

theorem identifiers_doubledOrders :
    (doubledOrders.properties.map emission.identifier).Nodup := by
  decide +kernel

def listedOrders : Entity :=
  { doubledOrders with
    relationships := [{ toCustomer with properties := ["Id", "Customer"] }]
    indexes := [{ name := "IX_Customer", columns := ["customer_id", "customer_region"] }]
    uniqueConstraints := [{ name := "AK_Customer", columns := ["Id", "CustomerEntity"] }] }

def listedOrdersPlan : MappingPlan :=
  { doubledOrdersPlan with
    statements := doubledOrdersPlan.statements.take 5 ++ [
      .relationship {
        navigation := "Customer"
        cardinality := .many
        principalNavigation := "Orders"
        foreignKey := ["Id", "Customer"] },
      .index { columns := ["CustomerEntity", "Customer"], name := some "IX_Customer" },
      .alternateKey ["Id", "CustomerEntity"] "AK_Customer"] }

theorem plan_listedOrders : emission.plan shop listedOrders = .ok listedOrdersPlan := by
  decide +kernel

theorem not_mixes_listedOrders :
    ¬ listedOrders.Mixes ["customer_id", "customer_region"] ∧
      ¬ listedOrders.Mixes ["Id", "CustomerEntity"] := by
  unfold Entity.Mixes Entity.IsColumn
  decide +kernel

theorem not_sheds_listedOrders :
    ∀ x ∈ ["Id", "Customer"], ∀ rest, ¬ Sheds emission.naming.suffix x rest := by
  have hs : ∀ x ∈ ["Id", "Customer"], stripSuffix x emission.naming.suffix = .ok x := by
    decide +kernel
  intro x hx rest hr
  obtain ⟨hne, hrest⟩ := sheds_iff.mp hr
  exact hne (Except.ok.inj (hrest.symm.trans (hs x hx)))

end Sample

namespace Emission

open Sample in
theorem selectors_doubledOrders :
    emission.plan shop doubledOrders = .ok doubledOrdersPlan ∧
      (doubledOrders.properties.map emission.identifier).Nodup ∧
      (∃ p ∈ doubledOrders.properties,
        doubledOrders.ListsTwice ["customer_id", "CustomerEntity"] p) ∧
      (∃ p ∈ doubledOrders.properties, doubledOrders.ListsTwice ["id", "Id"] p) ∧
      (∃ x ∈ ["CustomerEntity", "Customer"], ∃ y ∈ ["CustomerEntity", "Customer"],
        x ≠ y ∧ emission.naming.Merges x y) ∧
      emission.plan shop listedOrders = .ok listedOrdersPlan ∧
      (∀ b ∈ listedOrdersPlan.indexBindings, b.columns.Nodup) ∧
      (∀ b ∈ listedOrdersPlan.alternateKeyBindings, b.1.Nodup) ∧
      ∀ b ∈ listedOrdersPlan.relationshipBindings, b.foreignKey.Nodup := by
  obtain ⟨hi, hk, hr⟩ := selectors_nodup_iff plan_doubledOrders identifiers_doubledOrders
  have hi := (List.forall₂_cons.mp hi).1 (by decide)
  have hk := (List.forall₂_cons.mp hk).1 (by decide)
  have hr := (List.forall₂_cons.mp hr).1 (by decide)
  obtain ⟨hi', hk', hr'⟩ := selectors_nodup_iff plan_listedOrders identifiers_doubledOrders
  have hi' := (List.forall₂_cons.mp hi').1 (by decide)
  have hk' := (List.forall₂_cons.mp hk').1 (by decide)
  have hr' := (List.forall₂_cons.mp hr').1 (by decide)
  refine ⟨plan_doubledOrders, identifiers_doubledOrders, ?_, ?_, ?_, plan_listedOrders,
    List.forall_mem_singleton.mpr (hi'.2 not_mixes_listedOrders.1),
    List.forall_mem_singleton.mpr (hk'.2 not_mixes_listedOrders.2),
    List.forall_mem_singleton.mpr (hr'.2 not_sheds_listedOrders)⟩
  · by_contra hn
    push Not at hn
    exact absurd (hi.1.mpr hn) (by decide)
  · by_contra hn
    push Not at hn
    exact absurd (hk.1.mpr hn) (by decide)
  · by_contra hn
    push Not at hn
    exact absurd (hr.1.mpr hn) (by decide)

open Sample in
theorem selectors_repeat :
    emission.plan shop doubledOrders = .ok doubledOrdersPlan ∧
      (doubledOrders.properties.map emission.identifier).Nodup ∧
      ¬ List.Forall₂ (fun i b => i.columns.Nodup → b.columns.Nodup)
        doubledOrders.indexes doubledOrdersPlan.indexBindings ∧
      ¬ List.Forall₂ (fun c b => c.columns.Nodup → b.1.Nodup)
        doubledOrders.uniqueConstraints doubledOrdersPlan.alternateKeyBindings ∧
      ¬ List.Forall₂ (fun r b => r.properties.Nodup → b.foreignKey.Nodup)
        (doubledOrders.relationships.filter (·.isMapped))
        doubledOrdersPlan.relationshipBindings := by
  refine ⟨plan_doubledOrders, identifiers_doubledOrders, fun h => ?_, fun h => ?_, fun h => ?_⟩
  · exact absurd ((List.forall₂_cons.mp h).1 (by decide)) (by decide)
  · exact absurd ((List.forall₂_cons.mp h).1 (by decide)) (by decide)
  · exact absurd ((List.forall₂_cons.mp h).1 (by decide)) (by decide)

end Emission

end EntityMapping
