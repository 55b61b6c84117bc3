import EntityMapping.Proofs.Naming.Settled
import EntityMapping.Proofs.Plan.Arrangement
import EntityMapping.Proofs.Plan.ForeignKeys
import EntityMapping.Proofs.Related
import EntityMapping.Proofs.SourceText.Wrapping

/-! # Plans that are complete and closed

What a plan lists is never empty, its identifiers are spelled as such, and those that stand for
properties of the entity are among the constants.
-/

namespace EntityMapping

namespace Naming.Policy

variable {p : Policy} {raw identifier : String} {cardinality : Cardinality}

theorem wellSpelled_property (p : Policy) (raw : String) : WellSpelled (p.property raw) := by
  rw [property_eq_safeName_wording]
  exact wellSpelled_safeName _

theorem wellSpelled_foreignKey (h : p.foreignKey raw = .ok identifier) :
    WellSpelled identifier := by
  obtain ⟨rest, -, rfl⟩ := foreignKey_eq_ok_iff.mp h
  exact p.wellSpelled_property rest

theorem wellSpelled_navigation (h : p.navigation raw cardinality = .ok identifier) :
    WellSpelled identifier := by
  obtain ⟨rest, -, h⟩ := Outcome.bind_eq_ok_iff.mp h
  obtain ⟨word, -, h⟩ := Outcome.bind_eq_ok_iff.mp h
  rw [Outcome.pure_eq_ok_iff.mp h]
  exact p.wellSpelled_property word

end Naming.Policy

namespace Statement

/-- Nothing that the statement lists is empty. -/
def Complete : Statement → Prop
  | table .. | view .. | noKey => True
  | key columns => columns ≠ []
  | property _ directives => directives ≠ []
  | relationship r => r.foreignKey ≠ []
  | index i => i.columns ≠ []
  | alternateKey columns _ => columns ≠ []

/-- The identifiers that stand for properties of the entity. Those in a foreign key do so without
their suffix, and navigations do not. -/
def members : Statement → List String
  | table .. | view .. | noKey | relationship .. => []
  | key columns => columns
  | property name _ => [name]
  | index i => i.columns
  | alternateKey columns _ => columns

end Statement

/-- Every list of the plan has something in it, every identifier is spelled as one, and the members
that its statements are about are among the constants. -/
structure MappingPlan.Closed (plan : MappingPlan) (constants : TableConstants) : Prop where
  complete : ∀ s ∈ plan.statements, s.Complete
  spelled : ∀ name ∈ plan.identifiers, Naming.WellSpelled name
  declared : ∀ s ∈ plan.statements, ∀ name ∈ s.members, name ∈ constants.columns.map Prod.fst

namespace Emission

open Outcome

variable {em : Emission} {schema : Schema} {entity : Entity} {plan : MappingPlan}
  {statement : Statement} {columns identifiers : List String}

/-- What holds of each statement of a plan by itself. -/
structure Grounded (em : Emission) (entity : Entity) (s : Statement) : Prop where
  complete : s.Complete
  spelled : ∀ name ∈ s.identifiers, Naming.WellSpelled name
  members : ∀ name ∈ s.members, ∃ p ∈ entity.properties, name = em.identifier p

theorem wellSpelled_identifier (p : Property) : Naming.WellSpelled (em.identifier p) :=
  em.naming.wellSpelled_property p.propertyName

theorem grounded_of_members (hc : statement.Complete) (hi : statement.identifiers = statement.members)
    (hm : ∀ name ∈ statement.members, ∃ p ∈ entity.properties, name = em.identifier p) :
    em.Grounded entity statement := by
  refine ⟨hc, fun name hn => ?_, hm⟩
  obtain ⟨p, -, rfl⟩ := hm name (hi ▸ hn)
  exact wellSpelled_identifier p

theorem grounded_tableStatement : em.Grounded entity (tableStatement entity) := by
  unfold tableStatement
  split <;> exact grounded_of_members trivial rfl nofun

theorem grounded_keyStatement : em.Grounded entity (em.keyStatement entity) := by
  rw [keyStatement_eq]
  split_ifs with hn
  · exact grounded_of_members trivial rfl nofun
  · refine grounded_of_members hn rfl fun name hm => ?_
    obtain ⟨p, hp, rfl⟩ := List.mem_map.mp hm
    exact ⟨p, (List.mem_filter.mp hp).1, rfl⟩

theorem grounded_of_mem_propertyStatements (h : statement ∈ em.propertyStatements entity) :
    em.Grounded entity statement := by
  rw [propertyStatements_eq] at h
  obtain ⟨p, hp, rfl⟩ := List.mem_map.mp h
  obtain ⟨hp, hd⟩ := List.mem_filter.mp hp
  have hd : p.directives (em.identifier p) ≠ [] := of_decide_eq_true hd
  exact grounded_of_members hd rfl (List.forall_mem_singleton.mpr ⟨p, hp, rfl⟩)

theorem grounded_relationshipStatement {r : Relationship}
    (h : em.relationshipStatement schema entity r = .ok statement) :
    em.Grounded entity statement := by
  obtain ⟨hne, _, foreignKey, _, _, _, -, hk, -, hn, hp, rfl⟩ :=
    relationshipStatement_eq_ok_iff.mp h
  refine ⟨fun he => ?_, ?_, nofun⟩
  · obtain rfl : foreignKey = [] := he
    exact hne (List.forall₂_nil_right_iff.mp (mapM_eq_ok_iff.mp hk))
  · refine List.forall_mem_cons.mpr ⟨Naming.Policy.wellSpelled_navigation hn, ?_⟩
    refine List.forall_mem_cons.mpr ⟨Naming.Policy.wellSpelled_navigation hp, fun name hm => ?_⟩
    obtain ⟨raw, -, hr⟩ := exists_of_mem_mapM hk hm
    obtain ⟨p, -, hf⟩ := keyIdentifier_eq_ok_iff.mp hr
    exact Naming.Policy.wellSpelled_foreignKey hf

theorem members_of_columnIdentifiers {kind : ColumnList} {name : String}
    (h : em.columnIdentifiers entity kind name columns = .ok identifiers) :
    identifiers ≠ [] ∧ ∀ i ∈ identifiers, ∃ p ∈ entity.properties, i = em.identifier p := by
  have hi := namesColumn_of_columnIdentifiers h
  constructor
  · rintro rfl
    unfold columnIdentifiers at h
    split_ifs at h with he
    rw [List.forall₂_nil_right_iff.mp hi] at he
    exact he rfl
  · intro i hm
    obtain ⟨column, p, hp, rfl⟩ := exists_of_mem_forall₂ hi.flip hm
    exact ⟨p, (Entity.mem_of_propertyForColumn? hp).1, rfl⟩

theorem grounded_indexStatement {i : Index} (h : em.indexStatement entity i = .ok statement) :
    em.Grounded entity statement := by
  obtain ⟨columns, hc, rfl⟩ := indexStatement_eq_ok_iff.mp h
  obtain ⟨hn, hm⟩ := members_of_columnIdentifiers hc
  exact grounded_of_members hn rfl hm

theorem grounded_alternateKeyStatement {c : UniqueConstraint}
    (h : em.alternateKeyStatement entity c = .ok statement) : em.Grounded entity statement := by
  obtain ⟨columns, hc, rfl⟩ := alternateKeyStatement_eq_ok_iff.mp h
  obtain ⟨hn, hm⟩ := members_of_columnIdentifiers hc
  exact grounded_of_members hn rfl hm

theorem grounded_of_plan (h : em.plan schema entity = .ok plan) (hs : statement ∈ plan.statements) :
    em.Grounded entity statement := by
  obtain ⟨parts, hg⟩ := exists_grouped h
  have hp : statement ∈ parts statement.group := by
    rw [← hg.filter_group]
    simp [hs]
  cases hgroup : statement.group <;> rw [hgroup] at hp
  case table =>
    rw [hg.table, List.mem_singleton] at hp
    exact hp ▸ grounded_tableStatement
  case key =>
    rw [hg.key, List.mem_singleton] at hp
    exact hp ▸ grounded_keyStatement
  case properties => exact grounded_of_mem_propertyStatements (hg.properties ▸ hp)
  case relationships =>
    obtain ⟨r, -, hr⟩ := exists_of_mem_mapM hg.relationships hp
    exact grounded_relationshipStatement hr
  case indexes =>
    obtain ⟨i, -, hi⟩ := exists_of_mem_mapM hg.indexes hp
    exact grounded_indexStatement hi
  case alternateKeys =>
    obtain ⟨c, -, hc⟩ := exists_of_mem_mapM hg.alternateKeys hp
    exact grounded_alternateKeyStatement hc

/-- A plan with constants is closed under them. -/
theorem closed_of_plan (h : em.plan schema entity = .ok plan) (hc : em.withConstants = true) :
    ∃ constants, plan.constants = some constants ∧ plan.Closed constants := by
  have hconstants := constants_eq_of_plan h hc
  have hcol : ∀ name ∈ (em.constants entity).columns.map Prod.fst,
      ∃ p ∈ entity.properties, name = em.identifier p := by
    intro name hm
    obtain ⟨_, hcolumn, rfl⟩ := List.mem_map.mp hm
    obtain ⟨p, hp, rfl⟩ := List.mem_map.mp hcolumn
    exact ⟨p, hp, rfl⟩
  refine ⟨em.constants entity, hconstants, fun s hs => (grounded_of_plan h hs).complete, ?_, ?_⟩
  · intro name hm
    rw [MappingPlan.identifiers, hconstants] at hm
    rcases List.mem_append.mp hm with hm | hm
    · obtain ⟨s, hs, hm⟩ := List.mem_flatMap.mp hm
      exact (grounded_of_plan h hs).spelled name hm
    · obtain ⟨p, -, rfl⟩ := hcol name (by simpa using hm)
      exact wellSpelled_identifier p
  · intro s hs name hm
    obtain ⟨p, hp, rfl⟩ := (grounded_of_plan h hs).members name hm
    exact mem_constants_of_plan h hp hconstants

open Sample in
theorem closed_indexedOrders :
    emission.plan shop indexedOrders = .ok indexedOrdersPlan ∧ emission.withConstants = true ∧
      ∃ constants, indexedOrdersPlan.constants = some constants ∧
        indexedOrdersPlan.Closed constants :=
  ⟨plan_indexedOrders, rfl, closed_of_plan plan_indexedOrders rfl⟩

end Emission

end EntityMapping
