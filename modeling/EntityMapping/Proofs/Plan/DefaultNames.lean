import EntityMapping.Proofs.Plan.Acceptance
import EntityMapping.Proofs.Plan.Statements
import EntityMapping.Proofs.Related
import EntityMapping.Proofs.Schema.Lookup

/-! # Names that are left out

A plan leaves the name of a constraint or an index out where it is the default one, so that the
name given is always told by the plan together with the default. The default of an index is formed
over the entries that it lists. It is the one over its columns as long as each entry is a column,
and not the name of a property instead.
-/

namespace EntityMapping

namespace DefaultName

open Inflection Outcome

/-- The name that a foreign key gets from its tables, if the schema and both tables have names. -/
def ForeignKeyDefault (tableSchema : Option String) (table principal name : String) : Prop :=
  ∃ s singular, tableSchema = some s ∧ s ≠ "" ∧ table ≠ "" ∧ principal ≠ "" ∧
    singularize principal = .ok singular ∧
    name = "FK_" ++ s ++ "_" ++ table ++ "_" ++ singular

def underscored (names : List String) : String := String.join (names.map ("_" ++ ·))

/-- The name that an index on these columns gets, if its table has a name. -/
def IndexDefault (table : String) (columns : List String) (name : String) : Prop :=
  table ≠ "" ∧ name = "IX_" ++ table ++ underscored columns

/-- A name is left out exactly if it is the default. `predicted` is the default where it can be
told, and `explicit` the name that is spelled out. -/
structure Settles (IsDefault : String → Prop) (given predicted explicit : Option String) : Prop where
  unnamed : given = none ∨ given = some "" → explicit = none
  suppressed : ∀ name, given = some name → name ≠ "" → IsDefault name → explicit = none
  kept : ∀ name, given = some name → name ≠ "" → ¬ IsDefault name → explicit = some name
  undetermined : ∀ name, given = some name → name ≠ "" → predicted = none → explicit = some name
  recovered : ∀ name, given = some name → name ≠ "" → explicit.or predicted = some name
  needed : ∀ name, explicit = some name → predicted ≠ some name

variable {tableSchema given predicted : Option String} {table principal name : String}
  {columns : List String} {IsDefault : String → Prop}

theorem foreignKey_eq_some_iff (h : foreignKey tableSchema table principal = .ok predicted) :
    predicted = some name ↔ ForeignKeyDefault tableSchema table principal name := by
  cases tableSchema with
  | none =>
    cases h
    exact ⟨nofun, fun ⟨_, _, hs, _⟩ => nomatch hs⟩
  | some s =>
    unfold foreignKey at h
    dsimp only at h
    split_ifs at h with he
    · cases h
      refine ⟨nofun, ?_⟩
      rintro ⟨_, _, ⟨⟩, hs, ht, hp, -, -⟩
      simp [hs, ht, hp] at he
    · simp only [Bool.or_eq_true, String.isEmpty_iff, not_or] at he
      obtain ⟨singular, hsingular, hpredicted⟩ := bind_eq_ok_iff.mp h
      obtain rfl := pure_eq_ok_iff.mp hpredicted
      constructor
      · rintro ⟨⟩
        exact ⟨s, singular, rfl, he.1.1, he.1.2, he.2, hsingular, rfl⟩
      · rintro ⟨_, singular', ⟨⟩, -, -, -, hsingular', rfl⟩
        cases hsingular.symm.trans hsingular'
        rfl

theorem index_eq_some_iff (hc : columns ≠ []) :
    index table columns = some name ↔ IndexDefault table columns name := by
  unfold index
  by_cases ht : table = ""
  · simp [ht, IndexDefault]
  · rw [if_neg (by simp [ht, hc]), Option.some.injEq]
    constructor
    · rintro rfl
      exact ⟨ht, rfl⟩
    · rintro ⟨-, rfl⟩
      rfl

theorem needsOverride_iff :
    needsOverride name predicted = true ↔ name ≠ "" ∧ predicted ≠ some name := by
  simp [needsOverride]

theorem settles_filter (h : ∀ name, predicted = some name ↔ IsDefault name) :
    Settles IsDefault given predicted (given.filter (needsOverride · predicted)) where
  unnamed := by
    rintro (rfl | rfl)
    · rfl
    · simp [needsOverride]
  suppressed := by
    rintro name rfl - hd
    simp [needsOverride_iff, (h name).mpr hd]
  kept := by
    rintro name rfl hn hd
    rw [← h] at hd
    simp [needsOverride_iff, hn, hd]
  undetermined := by
    rintro name rfl hn rfl
    simp [needsOverride_iff, hn]
  recovered := by
    rintro name rfl hn
    rw [Option.filter_some]
    split_ifs with hk
    · rfl
    · rw [needsOverride_iff, not_and_not_right] at hk
      rw [Option.none_or, hk hn]
  needed := by
    intro name he
    exact (needsOverride_iff.mp (Option.filter_eq_some_iff.mp he).2).2

theorem underscored_cons (name : String) (names : List String) :
    underscored (name :: names) = "_" ++ name ++ underscored names := by
  simp [underscored]

end DefaultName

namespace Entity

open DefaultName

/-- The column of the property that an entry of an index stands for. -/
def Resolves (entity : Entity) (entry column : String) : Prop :=
  ∃ p, entity.propertyForColumn? entry = some p ∧ column = p.columnName

variable {entity : Entity} {entry column : String} {front back entries columns : List String}

theorem Resolves.eq_iff (h : entity.Resolves entry column) :
    column = entry ↔ entity.IsColumn entry := by
  obtain ⟨p, hp, rfl⟩ := h
  exact columnName_eq_iff_of_propertyForColumn? hp

theorem resolves_eq (h : List.Forall₂ entity.Resolves entries columns)
    (hc : ∀ entry ∈ entries, entity.IsColumn entry) : columns = entries := by
  induction h with
  | nil => rfl
  | cons hr _ ih =>
    obtain ⟨he, hc⟩ := List.forall_mem_cons.mp hc
    rw [hr.eq_iff.mpr he, ih hc]

/-- One entry that is no column makes the difference between the two lists. -/
theorem underscored_ne (h : List.Forall₂ entity.Resolves (front ++ entry :: back) columns)
    (hf : ∀ e ∈ front, entity.IsColumn e) (he : ¬ entity.IsColumn entry)
    (hb : ∀ e ∈ back, entity.IsColumn e) :
    underscored columns ≠ underscored (front ++ entry :: back) := by
  induction front generalizing columns with
  | nil =>
    obtain ⟨column, cs, hr, hrs, rfl⟩ := List.forall₂_cons_left_iff.mp h
    rw [resolves_eq hrs hb, List.nil_append, underscored_cons, underscored_cons, ne_eq,
      String.append_left_inj, String.append_right_inj]
    exact hr.eq_iff.not.mpr he
  | cons e front ih =>
    obtain ⟨hc, hf⟩ := List.forall_mem_cons.mp hf
    obtain ⟨column, cs, hr, hrs, rfl⟩ := List.forall₂_cons_left_iff.mp h
    rw [hr.eq_iff.mpr hc, List.cons_append, underscored_cons, underscored_cons, ne_eq,
      String.append_right_inj]
    exact ih hrs hf

end Entity

namespace Emission

open DefaultName Outcome

variable {em : Emission} {schema : Schema} {entity : Entity} {plan : MappingPlan}

theorem settles_relationshipStatement {r : Relationship} {b : RelationshipBinding}
    (h : em.relationshipStatement schema entity r = .ok (.relationship b)) :
    ∃ principal predicted, schema.entity? r.primaryEntity = some principal ∧
      foreignKey entity.tableSchema entity.tableName principal.tableName = .ok predicted ∧
      Settles (ForeignKeyDefault entity.tableSchema entity.tableName principal.tableName)
        r.relationshipName predicted b.constraintName := by
  obtain ⟨-, principal, _, predicted, _, _, hp, -, hd, -, -, hb⟩ :=
    relationshipStatement_eq_ok_iff.mp h
  obtain rfl := Statement.relationship.inj hb
  exact ⟨principal, predicted, hp, hd, settles_filter fun _ => foreignKey_eq_some_iff hd⟩

theorem columns_ne_nil_of_indexStatement {i : Index} {b : IndexBinding}
    (h : em.indexStatement entity i = .ok (.index b)) : i.columns ≠ [] := by
  obtain ⟨_, hc, -⟩ := indexStatement_eq_ok_iff.mp h
  unfold columnIdentifiers at hc
  split_ifs at hc with he
  exact fun hn => he (by rw [hn]; rfl)

theorem settles_indexStatement {i : Index} {b : IndexBinding}
    (h : em.indexStatement entity i = .ok (.index b)) :
    Settles (IndexDefault entity.tableName i.columns) (some i.name)
      (DefaultName.index entity.tableName i.columns) b.name := by
  have hn := columns_ne_nil_of_indexStatement h
  obtain ⟨_, -, hb⟩ := indexStatement_eq_ok_iff.mp h
  obtain rfl := Statement.index.inj hb
  have hs : Settles (IndexDefault entity.tableName i.columns) (some i.name)
      (DefaultName.index entity.tableName i.columns)
      ((some i.name).filter (needsOverride · (DefaultName.index entity.tableName i.columns))) :=
    settles_filter fun _ => index_eq_some_iff hn
  rwa [Option.filter_some] at hs

theorem resolves_of_indexStatement {i : Index} {b : IndexBinding}
    (h : em.indexStatement entity i = .ok (.index b)) :
    ∃ columns, List.Forall₂ entity.Resolves i.columns columns := by
  obtain ⟨identifiers, hc, -⟩ := indexStatement_eq_ok_iff.mp h
  unfold columnIdentifiers at hc
  split_ifs at hc
  refine exists_forall₂_iff.mpr fun entry he => ?_
  obtain ⟨_, hi⟩ := exists_ok_of_mapM hc he
  unfold columnIdentifier at hi
  split at hi
  · cases hi
  · next p hp => exact ⟨p.columnName, p, hp, rfl⟩

end Emission

namespace Sample

def namedOrders : Entity :=
  { orders with
    tableSchema := some "dbo"
    relationships := [
      { toCustomer with relationshipName := some "FK_dbo_Orders_Customer" },
      { toCustomer with relationshipName := some "FK_Buyer" }]
    indexes := [
      { name := "IX_Orders_customer_id_OrderDate", columns := ["customer_id", "OrderDate"] },
      { name := "IX_Orders_CustomerEntity", columns := ["CustomerEntity"] },
      { name := "UX_Customer", columns := ["customer_id"] }] }

def namedOrdersPlan : MappingPlan where
  entityClass := "OrderEntity"
  mappingClass := "OrderMapping"
  statements := [
    .table "Orders" (some "dbo"),
    .key ["Id"],
    .property "Id" [.columnName "id"],
    .property "CustomerEntity" [.columnName "customer_id"],
    .relationship {
      navigation := "Customer"
      cardinality := .many
      principalNavigation := "Orders"
      foreignKey := ["Customer"] },
    .relationship {
      navigation := "Customer"
      cardinality := .many
      principalNavigation := "Orders"
      foreignKey := ["Customer"]
      constraintName := some "FK_Buyer" },
    .index { columns := ["CustomerEntity", "OrderDate"] },
    .index { columns := ["CustomerEntity"] },
    .index { columns := ["CustomerEntity"], name := some "UX_Customer" }]
  constants := some {
    schema := some "dbo"
    name := "Orders"
    columns := [("Id", "id"), ("CustomerEntity", "customer_id"), ("OrderDate", "OrderDate")] }

theorem plan_namedOrders : emission.plan shop namedOrders = .ok namedOrdersPlan := by
  decide +kernel

end Sample

namespace Emission

open DefaultName

variable {em : Emission} {schema : Schema} {entity : Entity} {plan : MappingPlan}

/-- A plan leaves out the default names of constraints and indexes and spells out all others. -/
theorem explicitNames_of_plan (h : em.plan schema entity = .ok plan) :
    List.Forall₂ (fun r b => ∃ principal predicted,
        schema.entity? r.primaryEntity = some principal ∧
        foreignKey entity.tableSchema entity.tableName principal.tableName = .ok predicted ∧
        Settles (ForeignKeyDefault entity.tableSchema entity.tableName principal.tableName)
          r.relationshipName predicted b.constraintName)
      (entity.relationships.filter (·.isMapped)) plan.relationshipBindings ∧
    List.Forall₂ (fun i b => Settles (IndexDefault entity.tableName i.columns) (some i.name)
        (DefaultName.index entity.tableName i.columns) b.name)
      entity.indexes plan.indexBindings := by
  constructor
  · exact (relationshipBindings_of_plan h).imp fun r b hb => settles_relationshipStatement hb
  · exact (indexBindings_of_plan h).imp fun i b hb => settles_indexStatement hb

open Sample in
theorem explicitNames_namedOrders :
    emission.plan shop namedOrders = .ok namedOrdersPlan ∧
      ForeignKeyDefault (some "dbo") "Orders" "Customers" "FK_dbo_Orders_Customer" ∧
      ¬ ForeignKeyDefault (some "dbo") "Orders" "Customers" "FK_Buyer" ∧
      IndexDefault "Orders" ["CustomerEntity"] "IX_Orders_CustomerEntity" ∧
      ¬ IndexDefault "Orders" ["customer_id"] "UX_Customer" := by
  obtain ⟨hr, hi⟩ := explicitNames_of_plan plan_namedOrders
  obtain ⟨⟨_, _, hp, -, hs⟩, hr⟩ := List.forall₂_cons.mp hr
  obtain ⟨⟨_, _, hp', -, hs'⟩, -⟩ := List.forall₂_cons.mp hr
  obtain ⟨-, hi⟩ := List.forall₂_cons.mp hi
  obtain ⟨hi, hi'⟩ := List.forall₂_cons.mp hi
  cases hp
  cases hp'
  refine ⟨plan_namedOrders, ?_, ?_, ?_, ?_⟩
  · by_contra hd
    exact nomatch hs.kept _ rfl (by decide) hd
  · intro hd
    exact nomatch hs'.suppressed _ rfl (by decide) hd
  · by_contra hd
    exact nomatch hi.kept _ rfl (by decide) hd
  · intro hd
    exact nomatch (List.forall₂_cons.mp hi').1.suppressed _ rfl (by decide) hd

/-- The name that an index loses is the default over its columns exactly if its entries make the
same text as the columns, which they do where each of them is a column, and do not where all but
one are. -/
theorem suppressedNames_of_plan (h : em.plan schema entity = .ok plan) :
    List.Forall₂ (fun i b => ∃ columns, List.Forall₂ entity.Resolves i.columns columns ∧
        (i.name ≠ "" → b.name = none →
          (IndexDefault entity.tableName columns i.name ↔
            underscored columns = underscored i.columns)) ∧
        ((∀ entry ∈ i.columns, entity.IsColumn entry) → columns = i.columns) ∧
        ∀ front entry back, i.columns = front ++ entry :: back →
          (∀ e ∈ front, entity.IsColumn e) → ¬ entity.IsColumn entry →
          (∀ e ∈ back, entity.IsColumn e) → underscored columns ≠ underscored i.columns)
      entity.indexes plan.indexBindings := by
  refine (indexBindings_of_plan h).imp fun i b hb => ?_
  obtain ⟨columns, hc⟩ := resolves_of_indexStatement hb
  refine ⟨columns, hc, ?_, Entity.resolves_eq hc, ?_⟩
  · intro hn hs
    have hd : IndexDefault entity.tableName i.columns i.name := by
      by_contra hd
      have hk := (settles_indexStatement hb).kept i.name rfl hn hd
      rw [hs] at hk
      cases hk
    obtain ⟨ht, hi⟩ := hd
    unfold IndexDefault
    rw [hi, String.append_right_inj, eq_comm]
    exact and_iff_right ht
  · intro front entry back he hf hne hback
    rw [he] at hc ⊢
    exact Entity.underscored_ne hc hf hne hback

open Sample in
theorem suppressedNames_namedOrders :
    emission.plan shop namedOrders = .ok namedOrdersPlan ∧
      (∃ columns, List.Forall₂ namedOrders.Resolves ["customer_id", "OrderDate"] columns ∧
        IndexDefault "Orders" columns "IX_Orders_customer_id_OrderDate") ∧
      ∃ columns, List.Forall₂ namedOrders.Resolves ["CustomerEntity"] columns ∧
        ¬ IndexDefault "Orders" columns "IX_Orders_CustomerEntity" := by
  have h := suppressedNames_of_plan plan_namedOrders
  obtain ⟨⟨columns, hc, hd, he, -⟩, h⟩ := List.forall₂_cons.mp h
  obtain ⟨⟨columns', hc', hd', -, hn⟩, -⟩ := List.forall₂_cons.mp h
  have hall : ∀ entry ∈ ["customer_id", "OrderDate"], namedOrders.IsColumn entry := by
    unfold Entity.IsColumn
    decide
  have hone : ¬ namedOrders.IsColumn "CustomerEntity" := by
    unfold Entity.IsColumn
    decide
  refine ⟨plan_namedOrders, ⟨columns, hc, ?_⟩, columns', hc', ?_⟩
  · exact (hd (by decide) rfl).mpr (by rw [he hall])
  · exact (hd' (by decide) rfl).not.mpr (hn [] _ [] rfl nofun hone nofun)

open Sample in
/-- An index loses a name that is not the default over its columns. -/
theorem suppressed_not_over_columns :
    emission.plan shop namedOrders = .ok namedOrdersPlan ∧
      ¬ List.Forall₂ (fun i b => i.name ≠ "" → b.name = none →
          ∃ columns, List.Forall₂ namedOrders.Resolves i.columns columns ∧
            i.name = "IX_" ++ namedOrders.tableName ++ underscored columns)
        namedOrders.indexes namedOrdersPlan.indexBindings := by
  refine ⟨plan_namedOrders, fun h => ?_⟩
  obtain ⟨-, h⟩ := List.forall₂_cons.mp h
  obtain ⟨columns, hc, hn⟩ := (List.forall₂_cons.mp h).1 (by decide) rfl
  obtain ⟨column, _, ⟨p, hp, rfl⟩, hnil, rfl⟩ := List.forall₂_cons_left_iff.mp hc
  cases hnil
  cases hp
  exact absurd hn (by decide)

end Emission

end EntityMapping
