import EntityMapping.Proofs.Plan.Acceptance
import EntityMapping.Proofs.Plan.Statements
import EntityMapping.Proofs.Related

/-! # Products of the selected entities

Entities have their products unless one of them fails: it has no plan, or an earlier one has its
mapping class. What an entity yields does not depend on the others that are selected, so that a
smaller selection leaves products out and changes none.
-/

namespace EntityMapping

open Outcome

namespace CommandLine.Settings

variable {settings : Settings} {schema : Schema} {entity : Entity} {entities : List Entity}
  {plan : MappingPlan} {product : Product} {products : List Product} {seen : List String}
  {failure : Failure}

/-- The product is the written plan of the entity. -/
def Yields (settings : Settings) (schema : Schema) (entity : Entity) (product : Product) : Prop :=
  ∃ plan, settings.plan schema entity = .ok plan ∧ product = settings.produce plan

/-- Entities that all have a product. -/
structure Producible (settings : Settings) (schema : Schema) (entities : List Entity) : Prop where
  plans : ∀ e ∈ entities, ∃ plan, settings.plan schema e = .ok plan
  classes : (entities.map (·.mappingClass)).Nodup

/-- The entity has no plan, or it has one and a mapping class that one of the earlier entities has
already. -/
def FailsAfter (settings : Settings) (schema : Schema) (earlier : List Entity) (entity : Entity)
    (failure : Failure) : Prop :=
  settings.plan schema entity = .error failure ∨
    (∃ plan, settings.plan schema entity = .ok plan) ∧
    (∃ e ∈ earlier, e.mappingClass = entity.mappingClass) ∧
    failure = .metadata entity.entityClass (.repeatedMappingClass entity.mappingClass)

/-- The failure of the first entity that fails. -/
def FirstFails (settings : Settings) (schema : Schema) (entities : List Entity)
    (failure : Failure) : Prop :=
  ∃ earlier entity later, entities = earlier ++ entity :: later ∧
    settings.Producible schema earlier ∧ settings.FailsAfter schema earlier entity failure

theorem mappingClass_of_plan (h : settings.plan schema entity = .ok plan) :
    plan.mappingClass = entity.mappingClass := by
  obtain ⟨-, _, _, _, -, -, -, rfl⟩ :=
    Emission.plan_eq_ok_iff.mp ((plan_eq_ok_iff settings schema entity).mp h)
  rfl

theorem Yields.mappingClass_eq (h : settings.Yields schema entity product) :
    product.mappingClass = entity.mappingClass := by
  obtain ⟨plan, hp, rfl⟩ := h
  exact mappingClass_of_plan hp

theorem mappingClasses_of_yields (h : List.Forall₂ (settings.Yields schema) entities products) :
    products.map (·.mappingClass) = entities.map (·.mappingClass) := by
  induction h with
  | nil => rfl
  | cons hy _ ih => rw [List.map_cons, List.map_cons, hy.mappingClass_eq, ih]

/-! ## One entity after another -/

section Step

variable {rest : List Entity}

theorem productsAfter_cons_of_error (h : settings.plan schema entity = .error failure) :
    settings.productsAfter schema seen (entity :: rest) = .error failure := by
  rw [productsAfter, h]
  rfl

theorem productsAfter_cons_of_seen (h : settings.plan schema entity = .ok plan)
    (hs : entity.mappingClass ∈ seen) :
    settings.productsAfter schema seen (entity :: rest) =
      .error (.metadata entity.entityClass (.repeatedMappingClass entity.mappingClass)) := by
  have hc := List.contains_iff_mem.mpr hs
  rw [productsAfter, h, ok_bind, mappingClass_of_plan h, if_pos hc]
  rfl

theorem productsAfter_cons_of_new (h : settings.plan schema entity = .ok plan)
    (hs : entity.mappingClass ∉ seen) :
    settings.productsAfter schema seen (entity :: rest) =
      (settings.productsAfter schema (entity.mappingClass :: seen) rest).map
        (settings.produce plan :: ·) := by
  have hc := List.contains_iff_mem.not.mpr hs
  rw [productsAfter, h, ok_bind, mappingClass_of_plan h, if_neg hc]
  cases settings.productsAfter schema (entity.mappingClass :: seen) rest <;> rfl

end Step

theorem productsAfter_eq_ok_iff :
    settings.productsAfter schema seen entities = .ok products ↔
      List.Forall₂ (settings.Yields schema) entities products ∧
      (entities.map (·.mappingClass)).Nodup ∧ ∀ e ∈ entities, e.mappingClass ∉ seen := by
  induction entities generalizing seen products with
  | nil => cases products <;> simp [productsAfter]
  | cons e rest ih =>
    cases hp : settings.plan schema e with
    | error failure =>
      rw [productsAfter_cons_of_error hp]
      refine iff_of_false nofun fun ⟨hy, _⟩ => ?_
      obtain ⟨_, _, ⟨plan, hp', -⟩, -, -⟩ := List.forall₂_cons_left_iff.mp hy
      cases hp.symm.trans hp'
    | ok plan =>
      by_cases hs : e.mappingClass ∈ seen
      · rw [productsAfter_cons_of_seen hp hs]
        exact iff_of_false nofun fun h => h.2.2 e List.mem_cons_self hs
      · rw [productsAfter_cons_of_new hp hs, map_eq_ok_iff]
        simp only [ih, List.map_cons, List.nodup_cons, List.forall_mem_cons]
        simp only [List.mem_cons, not_or]
        constructor
        · rintro ⟨others, ⟨hy, hn, hd⟩, rfl⟩
          refine ⟨.cons ⟨plan, hp, rfl⟩ hy, ⟨?_, hn⟩, hs, fun e' he' => (hd e' he').2⟩
          exact fun hm => (List.mem_map.mp hm).elim fun e' h => (hd e' h.1).1 h.2
        · rintro ⟨hy, ⟨hm, hn⟩, -, hd⟩
          obtain ⟨_, others, ⟨plan', hp', rfl⟩, hys, rfl⟩ := List.forall₂_cons_left_iff.mp hy
          obtain rfl := Except.ok.inj (hp.symm.trans hp')
          refine ⟨others, ⟨hys, hn, fun e' he' => ⟨fun hc => hm ?_, hd e' he'⟩⟩, rfl⟩
          exact List.mem_map.mpr ⟨e', he', hc⟩

theorem productsAfter_eq_error_iff :
    settings.productsAfter schema seen entities = .error failure ↔
      ∃ earlier entity later, entities = earlier ++ entity :: later ∧
        settings.Producible schema earlier ∧ (∀ e ∈ earlier, e.mappingClass ∉ seen) ∧
        (settings.plan schema entity = .error failure ∨
          (∃ plan, settings.plan schema entity = .ok plan) ∧
          (entity.mappingClass ∈ seen ∨ ∃ e ∈ earlier, e.mappingClass = entity.mappingClass) ∧
          failure = .metadata entity.entityClass (.repeatedMappingClass entity.mappingClass)) := by
  induction entities generalizing seen with
  | nil => simp [productsAfter]
  | cons e rest ih =>
    constructor
    · intro h
      cases hp : settings.plan schema e with
      | error failure' =>
        obtain rfl := Except.error.inj ((productsAfter_cons_of_error hp).symm.trans h)
        exact ⟨[], e, rest, rfl, ⟨nofun, .nil⟩, nofun, .inl hp⟩
      | ok plan =>
        by_cases hs : e.mappingClass ∈ seen
        · obtain rfl := Except.error.inj ((productsAfter_cons_of_seen hp hs).symm.trans h)
          exact ⟨[], e, rest, rfl, ⟨nofun, .nil⟩, nofun, .inr ⟨⟨plan, hp⟩, .inl hs, rfl⟩⟩
        · rw [productsAfter_cons_of_new hp hs, map_eq_error_iff] at h
          obtain ⟨earlier, entity, later, rfl, ⟨hps, hn⟩, hd, hf⟩ := ih.mp h
          refine ⟨e :: earlier, entity, later, rfl, ⟨?_, ?_⟩, ?_, ?_⟩
          · exact List.forall_mem_cons.mpr ⟨⟨plan, hp⟩, hps⟩
          · refine List.nodup_cons.mpr ⟨fun hm => ?_, hn⟩
            obtain ⟨e', he', hc⟩ := List.mem_map.mp hm
            exact hd e' he' (hc ▸ List.mem_cons_self)
          · exact List.forall_mem_cons.mpr ⟨hs, fun e' he' hm => hd e' he' (.tail _ hm)⟩
          · simpa [or_assoc, or_left_comm, eq_comm] using hf
    · rintro ⟨earlier, entity, later, h, ⟨hps, hn⟩, hd, hf⟩
      cases earlier with
      | nil =>
        obtain ⟨rfl, rfl⟩ := List.cons.inj h
        rcases hf with hf | ⟨⟨plan, hp⟩, hs | ⟨_, hm, -⟩, rfl⟩
        · exact productsAfter_cons_of_error hf
        · exact productsAfter_cons_of_seen hp hs
        · cases hm
      | cons e' earlier =>
        obtain ⟨rfl, rfl⟩ := List.cons.inj h
        obtain ⟨⟨plan, hp⟩, hps⟩ := List.forall_mem_cons.mp hps
        obtain ⟨hm, hn⟩ := List.nodup_cons.mp hn
        obtain ⟨hs, hd⟩ := List.forall_mem_cons.mp hd
        rw [productsAfter_cons_of_new hp hs, map_eq_error_iff, ih]
        refine ⟨earlier, entity, later, rfl, ⟨hps, hn⟩, fun e' he' hc => ?_, ?_⟩
        · rcases List.mem_cons.mp hc with hc | hc
          · exact hm (List.mem_map.mpr ⟨e', he', hc⟩)
          · exact hd e' he' hc
        · simpa [or_assoc, or_left_comm, eq_comm] using hf

theorem products_eq_ok_iff {classNames : List String} :
    settings.products schema classNames = .ok products ↔
      List.Forall₂ (settings.Yields schema) (schema.select classNames) products ∧
      ((schema.select classNames).map (·.mappingClass)).Nodup := by
  simp [Settings.products, productsAfter_eq_ok_iff]

theorem products_eq_error_iff {classNames : List String} :
    settings.products schema classNames = .error failure ↔
      settings.FirstFails schema (schema.select classNames) failure := by
  simp [Settings.products, productsAfter_eq_error_iff, FirstFails, FailsAfter]

theorem exists_products_iff {classNames : List String} :
    (∃ products, settings.products schema classNames = .ok products) ↔
      settings.Producible schema (schema.select classNames) := by
  simp only [products_eq_ok_iff]
  constructor
  · rintro ⟨products, hy, hn⟩
    refine ⟨fun e he => ?_, hn⟩
    obtain ⟨product, plan, hp, -⟩ := exists_of_mem_forall₂ hy he
    exact ⟨plan, hp⟩
  · rintro ⟨hp, hn⟩
    have hy : ∀ e ∈ schema.select classNames, ∃ product, settings.Yields schema e product :=
      fun e he => (hp e he).elim fun plan h => ⟨_, plan, h, rfl⟩
    obtain ⟨products, hy⟩ := exists_forall₂_iff.mpr hy
    exact ⟨products, hy, hn⟩

/-- Of the products of all entities, a selection has those of its own entities, in their order and
as they are. -/
theorem products_of_select {classNames : List String}
    (h : settings.products schema [] = .ok products) (hc : classNames ≠ []) :
    List.Forall₂ (settings.Yields schema) schema.entities products ∧
      ∃ kept, settings.products schema classNames = .ok kept ∧ kept.Sublist products ∧
        kept =
          keptBeside (fun e => classNames.contains e.entityClass) schema.entities products := by
  obtain ⟨hy, hn⟩ := products_eq_ok_iff.mp h
  have hs : schema.select classNames =
      schema.entities.filter fun e => classNames.contains e.entityClass := by
    simp [Schema.select, hc]
  refine ⟨hy, _, products_eq_ok_iff.mpr ?_, keptBeside_sublist _ hy.length_eq, rfl⟩
  rw [hs]
  exact ⟨forall₂_keptBeside _ hy, hn.sublist (List.filter_sublist.map _)⟩

end CommandLine.Settings

namespace Sample

open CommandLine

def customersPlan : MappingPlan where
  entityClass := "CustomerEntity"
  mappingClass := "CustomerMapping"
  statements := [.table "Customers" none, .key ["Id"]]
  constants := some { name := "Customers", columns := [("Id", "Id")] }

theorem plan_customers : emission.plan shop customers = .ok customersPlan := by decide +kernel

theorem products_shop : settings.products shop [] =
    .ok [settings.produce customersPlan, settings.produce ordersPlan] := by
  rw [Settings.products_eq_ok_iff]
  have hc := (settings.plan_eq_ok_iff shop customers).mpr plan_customers
  have ho := (settings.plan_eq_ok_iff shop orders).mpr plan_orders
  exact ⟨.cons ⟨_, hc, rfl⟩ (.cons ⟨_, ho, rfl⟩ .nil), by decide⟩

theorem products_of_orders :
    settings.products shop [] =
      .ok [settings.produce customersPlan, settings.produce ordersPlan] ∧
    ["Missing", "OrderEntity", "OrderEntity"] ≠ [] ∧
    settings.products shop ["Missing", "OrderEntity", "OrderEntity"] =
      .ok [settings.produce ordersPlan] := by
  have hc : ["Missing", "OrderEntity", "OrderEntity"] ≠ [] := by simp
  obtain ⟨-, kept, hk, -, rfl⟩ := Settings.products_of_select products_shop hc
  exact ⟨products_shop, hc, hk⟩

end Sample

end EntityMapping
