import EntityMapping.Proofs.Naming.Spelling
import EntityMapping.Proofs.Plan.Acceptance
import EntityMapping.Proofs.Plan.Directives
import EntityMapping.Proofs.Plan.Statements
import Mathlib.Data.List.Nodup

/-! # Columns in statements and constants

The constants of a plan name the column of every property. The statements say the same: a column
is named where the identifier of its property does not already give it. Identifiers of different
properties can coincide, which happens exactly if the naming policy confuses their names.
-/

namespace EntityMapping

def Directive.columnName? : Directive → Option String
  | columnName name => some name
  | _ => none

namespace MappingPlan

/-- The directives in the property statements of an identifier. -/
def directivesOf (plan : MappingPlan) (identifier : String) : List Directive :=
  (plan.propertyBindings.filter (·.1 = identifier)).flatMap (·.2)

def columnNames (plan : MappingPlan) (identifier : String) : List String :=
  (plan.directivesOf identifier).filterMap Directive.columnName?

/-- The column of an identifier by the statements alone: without a name, it is called the same. -/
def columnOf (plan : MappingPlan) (identifier : String) : String :=
  (plan.columnNames identifier).head?.getD identifier

end MappingPlan

namespace Property

open Directive

variable (p : Property)

theorem columnName?_directives (identifier : String) :
    (p.directives identifier).filterMap columnName? =
      if identifier = p.columnName then [] else [p.columnName] := by
  have hc : (p.columnNameDirective identifier).filterMap columnName? =
      if identifier = p.columnName then [] else [p.columnName] := by
    unfold columnNameDirective
    split <;> rfl
  have hr : p.rowVersionDirectives.filterMap columnName? = [] := by
    refine List.filterMap_eq_nil_iff.mpr fun d hd => ?_
    obtain ⟨-, rfl | rfl | rfl | rfl⟩ := mem_rowVersionDirectives.mp hd <;> rfl
  have ht : p.columnTypeDirective.filterMap columnName? = [] := by
    refine List.filterMap_eq_nil_iff.mpr fun d hd => ?_
    obtain ⟨_, -, -, rfl⟩ := mem_columnTypeDirective.mp hd
    rfl
  have ha : p.ansiTextDirectives.filterMap columnName? = [] := by
    refine List.filterMap_eq_nil_iff.mpr fun d hd => ?_
    obtain ⟨-, rfl | rfl⟩ := mem_ansiTextDirectives.mp hd <;> rfl
  have hm : p.maxLengthDirective.filterMap columnName? = [] := by
    refine List.filterMap_eq_nil_iff.mpr fun d hd => ?_
    obtain ⟨-, _, -, -, rfl⟩ := mem_maxLengthDirective.mp hd
    rfl
  have hv : p.defaultValueDirective.filterMap columnName? = [] := by
    refine List.filterMap_eq_nil_iff.mpr fun d hd => ?_
    obtain ⟨_, -, rfl⟩ := mem_defaultValueDirective.mp hd
    rfl
  have hg : p.generationDirectives.filterMap columnName? = [] := by
    refine List.filterMap_eq_nil_iff.mpr fun d hd => ?_
    obtain ⟨-, ⟨-, hd⟩ | ⟨-, rfl⟩ | ⟨-, rfl⟩ | ⟨-, rfl⟩⟩ := mem_generationDirectives.mp hd
    · obtain ⟨_, -, rfl⟩ := mem_computedColumnDirective.mp hd
      rfl
    all_goals rfl
  simp only [directives, List.filterMap_append, hr, hc, ht, ha, hm, hv, hg, List.nil_append,
    List.append_nil]

end Property

theorem filter_eq_singleton {α : Type} {name : α → String} {as : List α} {a : α}
    (hn : (as.map name).Nodup) (ha : a ∈ as) : as.filter (name · = name a) = [a] := by
  induction as with
  | nil => cases ha
  | cons b as ih =>
    obtain ⟨hb, hn⟩ := List.nodup_cons.mp hn
    rcases List.mem_cons.mp ha with rfl | ha
    · have hnil : as.filter (name · = name a) = [] := by
        refine List.filter_eq_nil_iff.mpr fun c hc he => hb ?_
        exact List.mem_map.mpr ⟨c, hc, of_decide_eq_true he⟩
      rw [List.filter_cons_of_pos (by simp), hnil]
    · have hne : name b ≠ name a := fun he => hb (List.mem_map.mpr ⟨a, ha, he.symm⟩)
      rw [List.filter_cons_of_neg (by simpa using hne), ih hn ha]

namespace Emission

variable {em : Emission} {schema : Schema} {entity : Entity} {plan : MappingPlan} {p : Property}

theorem directivesOf_of_plan (h : em.plan schema entity = .ok plan) (identifier : String) :
    plan.directivesOf identifier =
      (entity.properties.filter (em.identifier · = identifier)).flatMap
        (·.directives identifier) := by
  rw [MappingPlan.directivesOf, propertyBindings_of_plan h]
  induction entity.properties with
  | nil => rfl
  | cons p ps ih =>
    by_cases hi : em.identifier p = identifier
    · by_cases hd : p.directives identifier = []
      · simpa [hi, hd] using ih
      · simpa [hi, hd] using ih
    · by_cases hd : p.directives (em.identifier p) = []
      · simpa [hi, hd] using ih
      · simpa [hi, hd] using ih

theorem columnNames_of_mem (h : em.plan schema entity = .ok plan)
    (hn : (entity.properties.map em.identifier).Nodup) (hp : p ∈ entity.properties) :
    plan.columnNames (em.identifier p) =
      if em.identifier p = p.columnName then [] else [p.columnName] := by
  rw [MappingPlan.columnNames, directivesOf_of_plan h, filter_eq_singleton hn hp]
  simp only [List.flatMap_cons, List.flatMap_nil, List.append_nil, Property.columnName?_directives]

theorem not_mem_columnNames (h : em.plan schema entity = .ok plan) (identifier : String) :
    identifier ∉ plan.columnNames identifier := by
  rw [MappingPlan.columnNames, directivesOf_of_plan h, List.filterMap_flatMap]
  intro hm
  obtain ⟨p, -, hp⟩ := List.mem_flatMap.mp hm
  rw [p.columnName?_directives] at hp
  split at hp
  next he => cases hp
  next he => exact he (List.mem_singleton.mp hp)

theorem constants_eq_of_plan (h : em.plan schema entity = .ok plan)
    (hc : em.withConstants = true) : plan.constants = some (em.constants entity) := by
  obtain ⟨-, _, _, _, -, -, -, rfl⟩ := plan_eq_ok_iff.mp h
  simp [hc]

/-- Where the identifiers of the properties differ, the statements give every identifier the
column that the constants name beside it, and spell it out at most once and only where needed. -/
theorem columnOf_constants (h : em.plan schema entity = .ok plan)
    (hc : em.withConstants = true) (hn : (entity.properties.map em.identifier).Nodup) :
    ∃ constants, plan.constants = some constants ∧
      constants.columns = entity.properties.map (fun p => (em.identifier p, p.columnName)) ∧
      (∀ column ∈ constants.columns, plan.columnOf column.1 = column.2 ∧
        (plan.columnNames column.1).length ≤ 1) ∧
      ∀ identifier, identifier ∉ plan.columnNames identifier := by
  refine ⟨em.constants entity, constants_eq_of_plan h hc, rfl, ?_, not_mem_columnNames h⟩
  intro column hm
  obtain ⟨p, hp, rfl⟩ := List.mem_map.mp hm
  rw [MappingPlan.columnOf, columnNames_of_mem h hn hp]
  split
  next he => exact ⟨he, Nat.zero_le _⟩
  next he => exact ⟨rfl, Nat.le_refl _⟩

open Sample in
theorem columnOf_constants_orders :
    (orders.properties.map emission.identifier).Nodup ∧
      ∃ constants, ordersPlan.constants = some constants ∧
        constants.columns = orders.properties.map (fun p => (emission.identifier p, p.columnName)) ∧
        (∀ column ∈ constants.columns, ordersPlan.columnOf column.1 = column.2 ∧
          (ordersPlan.columnNames column.1).length ≤ 1) ∧
        ∀ identifier, identifier ∉ ordersPlan.columnNames identifier := by
  have hn : (orders.properties.map emission.identifier).Nodup := by decide +kernel
  exact ⟨hn, columnOf_constants plan_orders rfl hn⟩

/-! ## Identifiers that coincide -/

theorem property_eq_columns_iff {naming : Naming.Policy} {name : String} :
    naming.property name = "Columns" ↔ naming.wording name = "Columns".toList :=
  Naming.Policy.property_eq_iff_of_alphanumeric (by decide)
    (List.all_eq_true.mp (by decide +kernel))

theorem bound_sublist (h : em.plan schema entity = .ok plan) :
    (plan.propertyBindings.map Prod.fst).Sublist (entity.properties.map em.identifier) := by
  rw [propertyBindings_of_plan h]
  have hs := (List.filter_sublist (p := fun b => b.2 ≠ []) (l := entity.properties.map fun p =>
    (em.identifier p, p.directives (em.identifier p)))).map Prod.fst
  rwa [List.map_map] at hs

theorem identifiers_nodup_iff (h : em.plan schema entity = .ok plan) :
    (entity.properties.map em.identifier).Nodup ↔
      ∀ p ∈ entity.properties, ∀ q ∈ entity.properties, p.propertyName ≠ q.propertyName →
        ¬ em.naming.Confuses p.propertyName q.propertyName := by
  have hn : (entity.properties.map (·.propertyName)).Nodup :=
    (firstRepeated_eq_none_iff.mp (plan_eq_ok_iff.mp h).1).1
  have hm : entity.properties.map em.identifier =
      (entity.properties.map (·.propertyName)).map em.naming.property := by
    rw [List.map_map]
    rfl
  rw [hm, List.nodup_map_iff_inj_on hn]
  simp only [List.forall_mem_map, Naming.Policy.property_eq_property_iff, ne_eq, not_imp_not]

/-- The constants have an identifier for each property, none of them that of the struct around
them, exactly if the policy confuses no two of the property names and words none `Columns`. -/
theorem constants_distinct_iff (h : em.plan schema entity = .ok plan)
    (hc : em.withConstants = true) :
    ∃ constants, plan.constants = some constants ∧
      ((constants.columns.map Prod.fst).Nodup ∧ "Columns" ∉ constants.columns.map Prod.fst ∧
          (plan.propertyBindings.map Prod.fst).Nodup ↔
        (∀ p ∈ entity.properties, ∀ q ∈ entity.properties, p.propertyName ≠ q.propertyName →
          ¬ em.naming.Confuses p.propertyName q.propertyName) ∧
        ∀ p ∈ entity.properties, em.naming.wording p.propertyName ≠ "Columns".toList) := by
  refine ⟨em.constants entity, constants_eq_of_plan h hc, ?_⟩
  have hi : (em.constants entity).columns.map Prod.fst = entity.properties.map em.identifier := by
    rw [constants, List.map_map]
    rfl
  have hcol : "Columns" ∉ entity.properties.map em.identifier ↔
      ∀ p ∈ entity.properties, em.naming.wording p.propertyName ≠ "Columns".toList := by
    simp only [List.mem_map, not_exists, not_and, identifier, property_eq_columns_iff, ne_eq]
  rw [hi, ← identifiers_nodup_iff h, ← hcol]
  constructor
  · rintro ⟨hn, hm, -⟩
    exact ⟨hn, hm⟩
  · rintro ⟨hn, hm⟩
    exact ⟨hn, hm, hn.sublist (bound_sublist h)⟩

open Sample in
theorem not_confuses_orders : emission.withConstants = true ∧
    ∀ p ∈ orders.properties, ∀ q ∈ orders.properties, p.propertyName ≠ q.propertyName →
      ¬ emission.naming.Confuses p.propertyName q.propertyName := by
  obtain ⟨constants, hs, hd⟩ := constants_distinct_iff plan_orders rfl
  cases hs
  exact ⟨rfl, (hd.mp (by decide +kernel)).1⟩

end Emission

namespace Sample

def lines : Entity where
  entityClass := "LineEntity"
  mappingClass := "LineMapping"
  tableName := "Lines"
  properties := [
    { propertyName := "order id", columnName := "order" },
    { propertyName := "order_id", columnName := "id" },
    { propertyName := "columns", columnName := "extent" }]

def linesPlan : MappingPlan where
  entityClass := "LineEntity"
  mappingClass := "LineMapping"
  statements := [
    .table "Lines" none,
    .noKey,
    .property "OrderId" [.columnName "order"],
    .property "OrderId" [.columnName "id"],
    .property "Columns" [.columnName "extent"]]
  constants := some {
    name := "Lines"
    columns := [("OrderId", "order"), ("OrderId", "id"), ("Columns", "extent")] }

theorem constants_clash : ∃ constants, emission.plan shop lines = .ok linesPlan ∧
    linesPlan.constants = some constants ∧ ¬ (constants.columns.map Prod.fst).Nodup ∧
    "Columns" ∈ constants.columns.map Prod.fst ∧
    ¬ (linesPlan.propertyBindings.map Prod.fst).Nodup :=
  ⟨_, by decide +kernel, rfl, by decide +kernel, by decide +kernel, by decide +kernel⟩

end Sample

end EntityMapping
