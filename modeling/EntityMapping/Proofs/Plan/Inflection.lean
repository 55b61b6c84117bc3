import EntityMapping.Proofs.Inflection.Failure
import EntityMapping.Proofs.Naming.Suffix
import EntityMapping.Proofs.Plan.Acceptance
import EntityMapping.Proofs.Plan.Statements

/-! # Plans that fail for a word

A relationship has words put in the plural and in the singular. Where the metadata are sound, a plan
fails exactly if one of these words resists, and only then does a plan fail without a fault in the
metadata.
-/

namespace EntityMapping

open Inflection Outcome

namespace Naming

variable {raw suffix rest : String} {cardinality : Cardinality} {policy : Policy}

theorem fails_stripSuffix_iff :
    Fails (stripSuffix raw suffix) ↔ suffix ≠ "" ∧ Resists Rule.plural suffix := by
  rw [← fails_pluralize_iff]
  unfold stripSuffix
  split_ifs with he
  · exact iff_of_false not_fails_pure fun h => h.1 (String.isEmpty_iff.mp he)
  · have hn : suffix ≠ "" := fun h => he (String.isEmpty_iff.mpr h)
    rw [fails_bind_iff, and_iff_right hn]
    refine or_iff_left ?_
    rintro ⟨plural, -, h⟩
    dsimp only at h
    split at h <;> exact not_fails_pure h

theorem fails_foreignKey_iff :
    Fails (policy.foreignKey raw) ↔ policy.suffix ≠ "" ∧ Resists Rule.plural policy.suffix :=
  fails_bind_pure_iff.trans fails_stripSuffix_iff

theorem fails_navigation_iff :
    Fails (policy.navigation raw cardinality) ↔
      policy.suffix ≠ "" ∧ Resists Rule.plural policy.suffix ∨
      cardinality = .many ∧
        ∃ rest, stripSuffix raw policy.suffix = .ok rest ∧ Resists Rule.plural rest := by
  unfold Policy.navigation
  rw [fails_bind_iff, fails_stripSuffix_iff]
  refine or_congr_right ?_
  simp only [fails_bind_pure_iff]
  cases cardinality with
  | one => exact iff_of_false (fun ⟨_, _, h⟩ => not_fails_pure h) nofun
  | many => simp only [Naming.inflect, fails_pluralize_iff, true_and]

theorem ascii_of_stripSuffix (h : stripSuffix raw suffix = .ok rest) (hr : Ascii raw) :
    Ascii rest := by
  by_cases he : rest = raw
  · exact he ▸ hr
  · obtain ⟨-, -, plural, -, hd⟩ := sheds_iff.mpr ⟨he, h⟩
    rcases hd with rfl | ⟨rfl, -⟩ <;>
      exact fun c hc => hr c (by simp [hc])

end Naming

namespace DefaultName

variable {tableSchema : Option String} {table principal : String}

theorem fails_foreignKey_iff :
    Fails (foreignKey tableSchema table principal) ↔
      (∃ s, tableSchema = some s ∧ s ≠ "") ∧ table ≠ "" ∧ principal ≠ "" ∧
        Resists Rule.singular principal := by
  cases tableSchema with
  | none => exact iff_of_false not_fails_pure nofun
  | some s =>
    unfold foreignKey
    dsimp only
    split_ifs with he
    · exact iff_of_false not_fails_pure fun ⟨⟨_, hs, hn⟩, ht, hp, _⟩ => by
        cases hs
        simp [hn, ht, hp] at he
    · simp only [Bool.or_eq_true, String.isEmpty_iff, not_or] at he
      rw [fails_bind_pure_iff, fails_singularize_iff]
      exact ⟨fun h => ⟨⟨s, rfl, he.1.1⟩, he.1.2, he.2, h⟩, fun h => h.2.2.2⟩

end DefaultName

namespace Emission

open Naming

variable (em : Emission) (schema : Schema) (entity : Entity)

/-- The words that a relationship has put in the plural. -/
inductive Pluralizes (r : Relationship) : String → Prop
  | suffix : em.naming.suffix ≠ "" → Pluralizes r em.naming.suffix
  | navigation {rest : String} : r.primaryCardinality = .many →
      stripSuffix r.primaryPropertyName em.naming.suffix = .ok rest → Pluralizes r rest

/-- The words that a relationship has put in the singular, for the default name of its constraint. -/
inductive Singularizes (r : Relationship) : String → Prop
  | principal {tableSchema : String} {principal : Entity} :
      entity.tableSchema = some tableSchema → tableSchema ≠ "" → entity.tableName ≠ "" →
      schema.entity? r.primaryEntity = some principal → principal.tableName ≠ "" →
      Singularizes r principal.tableName

/-- A relationship with a word that resists being inflected. -/
inductive Impeded (r : Relationship) : Prop
  | plural {word : String} : em.Pluralizes r word → Resists Rule.plural word → Impeded r
  | singular {word : String} : Singularizes schema entity r word → Resists Rule.singular word →
      Impeded r

variable {em schema entity} {r : Relationship} {statement : Statement} {plan : MappingPlan}

theorem not_impeded_of_statement (h : em.relationshipStatement schema entity r = .ok statement) :
    ¬ em.Impeded schema entity r := by
  obtain ⟨-, principal, _, predicted, _, principalNavigation, hp, -, hd, -, hn, -⟩ :=
    relationshipStatement_eq_ok_iff.mp h
  have hn : ¬ Fails (em.naming.navigation r.primaryPropertyName r.primaryCardinality) :=
    not_fails_iff.mpr ⟨_, hn⟩
  have hd : ¬ Fails (DefaultName.foreignKey entity.tableSchema entity.tableName
      principal.tableName) :=
    not_fails_iff.mpr ⟨_, hd⟩
  rw [fails_navigation_iff, not_or] at hn
  rw [DefaultName.fails_foreignKey_iff] at hd
  rintro (⟨hw, hr⟩ | ⟨hw, hr⟩)
  · cases hw with
    | suffix he => exact hn.1 ⟨he, hr⟩
    | navigation hm hs => exact hn.2 ⟨hm, _, hs, hr⟩
  · cases hw with
    | principal hs hne ht hq hpe =>
      obtain rfl := Option.some.inj (hp.symm.trans hq)
      exact hd ⟨⟨_, hs, hne⟩, ht, hpe, hr⟩

/-- An outcome that is not a failure for a word. -/
def Inflects {α : Type} (x : Except EmissionFault α) : Prop := ∀ w, x ≠ .error (.inflection w)

section Inflects

variable {α β : Type} {x : Except EmissionFault α} {f : α → Except EmissionFault β} {as : List α}

theorem inflects_pure (a : α) : Inflects (pure a) := fun _ => nofun

theorem inflects_inflected {r : Except CaseFault α} (h : ¬ Fails r) : Inflects (inflected r) := by
  obtain ⟨a, rfl⟩ := not_fails_iff.mp h
  exact inflects_pure a

theorem Inflects.bind (hx : Inflects x) (hf : ∀ a, Inflects (f a)) : Inflects (x >>= f) := by
  rcases x with (e | w) | a
  · exact fun _ => nofun
  · exact (hx w rfl).elim
  · exact hf a

theorem inflects_mapM (h : ∀ a ∈ as, Inflects (f a)) : Inflects (as.mapM f) := by
  induction as with
  | nil => exact inflects_pure []
  | cons a as ih =>
    obtain ⟨ha, has⟩ := List.forall_mem_cons.mp h
    rw [List.mapM_cons]
    exact ha.bind fun _ => (ih has).bind fun _ => inflects_pure _

end Inflects

theorem inflects_relationshipStatement (h : ¬ em.Impeded schema entity r) :
    Inflects (em.relationshipStatement schema entity r) := by
  have hsuffix : ¬ (em.naming.suffix ≠ "" ∧ Resists Rule.plural em.naming.suffix) :=
    fun ⟨he, hs⟩ => h (.plural (.suffix he) hs)
  unfold relationshipStatement
  dsimp only
  split_ifs
  · exact fun _ => nofun
  cases hp : schema.entity? r.primaryEntity with
  | none => exact fun _ => nofun
  | some principal =>
    dsimp only
    have hkeys : Inflects (r.properties.mapM (em.keyIdentifier entity (.of r))) := by
      refine inflects_mapM fun name _ => ?_
      unfold keyIdentifier
      split
      · exact fun _ => nofun
      · exact inflects_inflected (fails_foreignKey_iff.not.mpr hsuffix)
    have hdefault : ¬ Fails (DefaultName.foreignKey entity.tableSchema entity.tableName
        principal.tableName) := by
      rw [DefaultName.fails_foreignKey_iff]
      rintro ⟨⟨s, hs, hne⟩, ht, hpe, hr⟩
      exact h (.singular (.principal hs hne ht hp hpe) hr)
    have hnavigation : ¬ Fails (em.naming.navigation r.propertyName .one) := by
      rw [fails_navigation_iff]
      exact not_or.mpr ⟨hsuffix, nofun⟩
    have hprincipal : ¬ Fails (em.naming.navigation r.primaryPropertyName r.primaryCardinality) := by
      rw [fails_navigation_iff]
      exact not_or.mpr ⟨hsuffix, fun ⟨hm, rest, hs, hr⟩ => h (.plural (.navigation hm hs) hr)⟩
    refine hkeys.bind fun _ => ?_
    refine (inflects_inflected hdefault).bind fun _ => ?_
    refine (inflects_inflected hnavigation).bind fun _ => ?_
    exact (inflects_inflected hprincipal).bind fun _ => inflects_pure _

theorem inflects_columnIdentifiers (kind : ColumnList) (name : String) (columns : List String) :
    Inflects (em.columnIdentifiers entity kind name columns) := by
  unfold columnIdentifiers
  split_ifs
  · exact fun _ => nofun
  · refine inflects_mapM fun column _ => ?_
    unfold columnIdentifier
    split <;> exact fun _ => nofun

theorem inflects_plan
    (h : ∀ r ∈ entity.relationships, r.isMapped → ¬ em.Impeded schema entity r) :
    Inflects (em.plan schema entity) := by
  unfold Emission.plan
  split
  · exact fun _ => nofun
  have hr : Inflects ((entity.relationships.filter (·.isMapped)).mapM
      (em.relationshipStatement schema entity)) := by
    refine inflects_mapM fun r hr => inflects_relationshipStatement ?_
    exact h r (List.mem_filter.mp hr).1 (List.mem_filter.mp hr).2
  have hi : Inflects (entity.indexes.mapM (em.indexStatement entity)) :=
    inflects_mapM fun _ _ => (inflects_columnIdentifiers _ _ _).bind fun _ => inflects_pure _
  have hk : Inflects (entity.uniqueConstraints.mapM (em.alternateKeyStatement entity)) :=
    inflects_mapM fun _ _ => (inflects_columnIdentifiers _ _ _).bind fun _ => inflects_pure _
  exact hr.bind fun _ => hi.bind fun _ => hk.bind fun _ => inflects_pure _

theorem not_impeded_of_plan (h : em.plan schema entity = .ok plan) :
    ∀ r ∈ entity.relationships, r.isMapped → ¬ em.Impeded schema entity r := by
  obtain ⟨-, relationships, _, _, hr, -⟩ := plan_eq_ok_iff.mp h
  intro r hm hmapped
  obtain ⟨statement, hs⟩ := exists_ok_of_mapM hr (List.mem_filter.mpr ⟨hm, hmapped⟩)
  exact not_impeded_of_statement hs

/-- The words that a plan inflects come from names within ASCII. -/
structure WithinAscii (em : Emission) (schema : Schema) (entity : Entity) : Prop where
  suffix : Ascii em.naming.suffix
  navigations : ∀ r ∈ entity.relationships, r.isMapped → Ascii r.primaryPropertyName
  tables : ∀ e ∈ schema.entities, Ascii e.tableName

theorem WithinAscii.not_impeded (h : em.WithinAscii schema entity) :
    ∀ r ∈ entity.relationships, r.isMapped → ¬ em.Impeded schema entity r := by
  rintro r hm hmapped (⟨hw, hr⟩ | ⟨hw, hr⟩)
  · cases hw with
    | suffix => exact h.suffix.not_resists hr
    | navigation _ hs =>
      exact (ascii_of_stripSuffix hs (h.navigations r hm hmapped)).not_resists hr
  · cases hw with
    | principal _ _ _ hp _ => exact (h.tables _ (Schema.mem_of_entity? hp).1).not_resists hr

/-- An entity without a word that resists has a plan or a fault in its metadata. A sound one fails
for a word exactly if one of its mapped relationships has such a word, which none has where the
names are within ASCII. -/
theorem plan_inflection (em : Emission) (schema : Schema) (entity : Entity) :
    ((∀ r ∈ entity.relationships, r.isMapped → ¬ em.Impeded schema entity r) →
      (∃ plan, em.plan schema entity = .ok plan) ∨
        ∃ fault, em.plan schema entity = .error (.metadata fault)) ∧
    (entity.Sound schema →
      ((∃ word, em.plan schema entity = .error (.inflection word)) ↔
        ∃ r ∈ entity.relationships, r.isMapped ∧ em.Impeded schema entity r)) ∧
    (em.WithinAscii schema entity →
      ∀ r ∈ entity.relationships, r.isMapped → ¬ em.Impeded schema entity r) := by
  have hreported := em.reported_plan schema entity
  refine ⟨?_, ?_, WithinAscii.not_impeded⟩
  · intro h
    have hi := inflects_plan h
    rcases hp : em.plan schema entity with (fault | word) | plan
    · exact .inr ⟨fault, rfl⟩
    · exact (hi word hp).elim
    · exact .inl ⟨plan, rfl⟩
  · intro hsound
    constructor
    · rintro ⟨word, hw⟩
      by_contra hn
      push Not at hn
      exact inflects_plan hn word hw
    · rintro ⟨r, hm, hmapped, hr⟩
      rcases hp : em.plan schema entity with (fault | word) | plan
      · rw [hp] at hreported
        exact ((entity.check schema).not_sound hreported
          (Entity.check_sound_iff schema entity |>.mpr hsound)).elim
      · exact ⟨word, rfl⟩
      · exact (not_impeded_of_plan hp r hm hmapped hr).elim

end Emission

namespace Sample

def accentedOrders : Entity :=
  { orders with relationships := [{ toCustomer with primaryPropertyName := "Café" }] }

theorem accentedOrders_sound : accentedOrders.Sound shop where
  names := by decide
  relationships := by
    intro r hr _
    rw [List.mem_singleton.mp hr]
    refine ⟨by decide, ⟨customers, by decide, rfl⟩, ?_⟩
    intro name hn
    rw [List.mem_singleton.mp hn]
    exact ⟨_, .tail _ (.head _), rfl⟩
  indexes := nofun
  uniqueConstraints := nofun

end Sample

namespace Emission

open Sample in
theorem plan_inflection_accentedOrders :
    accentedOrders.Sound shop ∧
      ∃ r ∈ accentedOrders.relationships, r.isMapped ∧ emission.Impeded shop accentedOrders r := by
  have he : emission.plan shop accentedOrders = .error (.inflection ⟨"Café", "é"⟩) := by
    decide +kernel
  have hs := accentedOrders_sound
  exact ⟨hs, ((emission.plan_inflection shop accentedOrders).2.1 hs).mp ⟨_, he⟩⟩

open Sample in
/-- A policy made from a mode and a suffix under which an entity with sound metadata ends in
neither a plan nor a fault of its metadata. -/
theorem plan_fails_for_word :
    Naming.Policy.make .plural "Entity" = .ok emission.naming ∧ accentedOrders.Sound shop ∧
      emission.plan shop accentedOrders = .error (.inflection ⟨"Café", "é"⟩) := by
  refine ⟨rfl, accentedOrders_sound, ?_⟩
  decide +kernel

end Emission

end EntityMapping
