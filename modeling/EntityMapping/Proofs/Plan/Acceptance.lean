import EntityMapping.CommandLine.Generation
import EntityMapping.Proofs.Outcome
import EntityMapping.Proofs.Schema.Lookup

/-! # Which entities have a plan

An entity is sound if its property names differ and everything that its relationships, indexes and
unique constraints refer to is there. Short of a word that cannot be inflected, the sound entities
are those with a plan, and the failure of any other tells the first thing wrong with it.
-/

namespace EntityMapping

section Repeated

variable {α : Type} [DecidableEq α] {seen names : List α} {name : α}

theorem firstRepeated_eq_none_iff :
    firstRepeated seen names = none ↔ names.Nodup ∧ ∀ a ∈ names, a ∉ seen := by
  induction names generalizing seen with
  | nil => simp [firstRepeated]
  | cons a names ih =>
    by_cases ha : a ∈ seen
    · simp [firstRepeated, ha]
    · simp only [firstRepeated, ha, if_false, ih, List.nodup_cons, List.mem_cons, not_or,
        forall_eq_or_imp, not_false_eq_true, true_and]
      constructor
      · rintro ⟨hn, hd⟩
        exact ⟨⟨fun hm => (hd a hm).1 rfl, hn⟩, fun b hb => (hd b hb).2⟩
      · rintro ⟨⟨hm, hn⟩, hd⟩
        exact ⟨hn, fun b hb => ⟨fun he => hm (he ▸ hb), hd b hb⟩⟩

theorem firstRepeated_eq_some_iff :
    firstRepeated seen names = some name ↔ ∃ before after, names = before ++ name :: after ∧
      before.Nodup ∧ (∀ a ∈ before, a ∉ seen) ∧ (name ∈ before ∨ name ∈ seen) := by
  induction names generalizing seen with
  | nil => simp [firstRepeated]
  | cons a names ih =>
    simp only [List.cons_eq_append_iff]
    by_cases ha : a ∈ seen
    · simp only [firstRepeated, ha, if_true, Option.some.injEq]
      constructor
      · rintro rfl
        exact ⟨[], names, .inl ⟨rfl, rfl⟩, by simp, by simp, .inr ha⟩
      · rintro ⟨before, after, ⟨-, h⟩ | ⟨tail, rfl, -⟩, -, hd, -⟩
        · exact (List.cons.inj h).1.symm
        · exact (hd a List.mem_cons_self ha).elim
    · simp only [firstRepeated, ha, if_false, ih]
      constructor
      · rintro ⟨before, after, rfl, hn, hd, hm⟩
        refine ⟨a :: before, after, .inr ⟨before, rfl, rfl⟩, ?_, ?_, ?_⟩
        · exact List.nodup_cons.mpr ⟨fun h => hd a h List.mem_cons_self, hn⟩
        · intro b hb
          rcases List.mem_cons.mp hb with rfl | hb
          · exact ha
          · exact fun h => hd b hb (List.mem_cons_of_mem _ h)
        · simpa [or_assoc, or_comm, or_left_comm] using hm
      · rintro ⟨before, after, ⟨rfl, h⟩ | ⟨tail, rfl, rfl⟩, hn, hd, hm⟩
        · obtain ⟨rfl, -⟩ := List.cons.inj h
          simp [ha] at hm
        · obtain ⟨hat, hn⟩ := List.nodup_cons.mp hn
          refine ⟨tail, after, rfl, hn, fun b hb h => ?_, ?_⟩
          · rcases List.mem_cons.mp h with rfl | h
            · exact hat hb
            · exact hd b (List.mem_cons_of_mem _ hb) h
          · simpa [or_assoc, or_comm, or_left_comm] using hm

theorem firstRepeated_nil_eq_some_iff :
    firstRepeated [] names = some name ↔
      ∃ before after, names = before ++ name :: after ∧ before.Nodup ∧ name ∈ before := by
  simp [firstRepeated_eq_some_iff]

end Repeated

/-- A condition on metadata with the fault to be named where it fails, of which there is one. -/
structure Check where
  Sound : Prop
  Fault : MetadataFault → Prop
  not_sound : ∀ {f}, Fault f → ¬ Sound
  unique : ∀ {f g}, Fault f → Fault g → f = g

namespace Check

variable {α β : Type}

/-- The fault of the first element that has one, those before it being sound. -/
inductive FirstFault (c : α → Check) : List α → MetadataFault → Prop
  | here {a : α} {as : List α} {f : MetadataFault} : (c a).Fault f → FirstFault c (a :: as) f
  | later {a : α} {as : List α} {f : MetadataFault} :
      (c a).Sound → FirstFault c as f → FirstFault c (a :: as) f

theorem FirstFault.not_sound {c : α → Check} {as : List α} {f : MetadataFault}
    (h : FirstFault c as f) : ¬ ∀ a ∈ as, (c a).Sound := by
  induction h with
  | here hf => exact fun hs => (c _).not_sound hf (hs _ List.mem_cons_self)
  | later _ _ ih => exact fun hs => ih fun a ha => hs a (List.mem_cons_of_mem _ ha)

theorem FirstFault.unique {c : α → Check} {as : List α} {f g : MetadataFault}
    (hf : FirstFault c as f) (hg : FirstFault c as g) : f = g := by
  induction hf with
  | here hf =>
    cases hg with
    | here hg => exact (c _).unique hf hg
    | later hs _ => exact ((c _).not_sound hf hs).elim
  | later hs _ ih =>
    cases hg with
    | here hg => exact ((c _).not_sound hg hs).elim
    | later _ hg => exact ih hg

def require (p : Prop) (f : MetadataFault) : Check where
  Sound := p
  Fault g := ¬ p ∧ g = f
  not_sound h := h.1
  unique hf hg := hf.2.trans hg.2.symm

def distinct (names : List String) (report : String → MetadataFault) : Check where
  Sound := names.Nodup
  Fault f := ∃ before name after, names = before ++ name :: after ∧ before.Nodup ∧
    name ∈ before ∧ f = report name
  not_sound := by
    rintro f ⟨before, name, after, rfl, -, hm, -⟩ hn
    exact (List.nodup_append.mp hn).2.2 name hm name List.mem_cons_self rfl
  unique := by
    rintro f g ⟨before, name, after, h, hn, hm, rfl⟩ ⟨before', name', after', h', hn', hm', rfl⟩
    have hf := firstRepeated_nil_eq_some_iff.mpr ⟨before, after, h, hn, hm⟩
    have hg := firstRepeated_nil_eq_some_iff.mpr ⟨before', after', h', hn', hm'⟩
    rw [Option.some.inj (hf.symm.trans hg)]

/-- One check after another, whose fault counts only where the first is passed. -/
def andThen (c d : Check) : Check where
  Sound := c.Sound ∧ d.Sound
  Fault f := c.Fault f ∨ c.Sound ∧ d.Fault f
  not_sound h hs := h.elim (c.not_sound · hs.1) (d.not_sound ·.2 hs.2)
  unique := by
    rintro f g (hf | ⟨hs, hf⟩) (hg | ⟨hs', hg⟩)
    · exact c.unique hf hg
    · exact (c.not_sound hf hs').elim
    · exact (c.not_sound hg hs).elim
    · exact d.unique hf hg

def each (as : List α) (c : α → Check) : Check where
  Sound := ∀ a ∈ as, (c a).Sound
  Fault := FirstFault c as
  not_sound := FirstFault.not_sound
  unique := FirstFault.unique

end Check

namespace Entity

variable (schema : Schema) (entity : Entity)

def relationshipCheck (r : Relationship) : Check :=
  .andThen (.require (r.properties ≠ []) (.noForeignKey (.of r))) <|
  .andThen (.require (∃ principal ∈ schema.entities, principal.entityClass = r.primaryEntity)
    (.unknownPrincipal (.of r) r.primaryEntity)) <|
  .each r.properties fun name =>
    .require (entity.HasProperty name) (.unknownKeyProperty (.of r) name)

def columnsCheck (kind : ColumnList) (name : String) (columns : List String) : Check :=
  .andThen (.require (columns ≠ []) (.noColumns kind name)) <|
  .each columns fun column => .require (entity.HasColumn column) (.unknownColumn kind name column)

/-- All that has to hold of an entity, in the order in which it is looked at. -/
def check : Check :=
  .andThen (.distinct (entity.properties.map (·.propertyName)) .duplicateProperty) <|
  .andThen (.each (entity.relationships.filter (·.isMapped)) (entity.relationshipCheck schema)) <|
  .andThen (.each entity.indexes fun i => entity.columnsCheck .index i.name i.columns) <|
  .each entity.uniqueConstraints fun c => entity.columnsCheck .uniqueConstraint c.name c.columns

/-- The metadata of the entity fit together. -/
structure Sound : Prop where
  names : (entity.properties.map (·.propertyName)).Nodup
  relationships : ∀ r ∈ entity.relationships, r.isMapped →
    r.properties ≠ [] ∧
    (∃ principal ∈ schema.entities, principal.entityClass = r.primaryEntity) ∧
    ∀ name ∈ r.properties, entity.HasProperty name
  indexes : ∀ i ∈ entity.indexes, i.columns ≠ [] ∧ ∀ column ∈ i.columns, entity.HasColumn column
  uniqueConstraints : ∀ c ∈ entity.uniqueConstraints,
    c.columns ≠ [] ∧ ∀ column ∈ c.columns, entity.HasColumn column

theorem check_sound_iff : (entity.check schema).Sound ↔ entity.Sound schema := by
  constructor
  · rintro ⟨hn, hr, hi, hc⟩
    exact ⟨hn, fun r hm h => hr r (List.mem_filter.mpr ⟨hm, h⟩), hi, hc⟩
  · rintro ⟨hn, hr, hi, hc⟩
    exact ⟨hn, fun r hm => hr r (List.mem_filter.mp hm).1 (List.mem_filter.mp hm).2, hi, hc⟩

end Entity

/-! ## Outcomes that agree with a check -/

namespace Check

variable {α β : Type} {c d : Check} {x : Except EmissionFault α} {f : MetadataFault}

/-- An outcome that is a success only of sound metadata and names the fault of others, unless it
is due to a word that cannot be inflected. -/
def Reported (c : Check) : Except EmissionFault α → Prop
  | .ok _ => c.Sound
  | .error (.metadata f) => c.Fault f
  | .error (.inflection _) => True

theorem Reported.ok_iff (h : c.Reported x) (hx : ∀ w, x ≠ .error (.inflection w)) :
    (∃ a, x = .ok a) ↔ c.Sound := by
  rcases x with (f | w) | a
  · exact ⟨nofun, fun hs => (c.not_sound h hs).elim⟩
  · exact (hx w rfl).elim
  · exact ⟨fun _ => h, fun _ => ⟨a, rfl⟩⟩

theorem Reported.error_iff (h : c.Reported x) (hx : ∀ w, x ≠ .error (.inflection w)) :
    x = .error (.metadata f) ↔ c.Fault f := by
  rcases x with (g | w) | a
  · constructor
    · intro he
      cases he
      exact h
    · intro hf
      rw [c.unique hf h]
  · exact (hx w rfl).elim
  · exact ⟨nofun, fun hf => (c.not_sound hf h).elim⟩

theorem Reported.mono (hs : c.Sound → d.Sound) (hf : ∀ f, c.Fault f → d.Fault f)
    (h : c.Reported x) : d.Reported x := by
  rcases x with (f | w) | a
  · exact hf f h
  · trivial
  · exact hs h

theorem Reported.andThen (hs : c.Sound) (h : d.Reported x) : (c.andThen d).Reported x := by
  rcases x with (f | w) | a
  · exact .inr ⟨hs, h⟩
  · trivial
  · exact ⟨hs, h⟩

theorem Reported.bind {g : α → Except EmissionFault β} (hx : c.Reported x)
    (hg : ∀ a, d.Reported (g a)) : (c.andThen d).Reported (x >>= g) := by
  rcases x with (f | w) | a
  · exact .inl hx
  · trivial
  · exact (hg a).andThen hx

def Faultless (x : Except EmissionFault α) : Prop := ∀ f, x ≠ .error (.metadata f)

theorem faultless_pure (a : α) : Faultless (pure a) := fun _ => nofun

theorem faultless_inflected (r : Except Inflection.CaseFault α) :
    Faultless (Emission.inflected r) := by
  intro f
  cases r <;> simp [Emission.inflected, Except.mapError]

theorem Faultless.bind {g : α → Except EmissionFault β} (hx : Faultless x)
    (hg : ∀ a, Faultless (g a)) : Faultless (x >>= g) := by
  rcases x with (f | w) | a
  · exact (hx f rfl).elim
  · exact fun _ => nofun
  · exact hg a

theorem Faultless.reported (h : Faultless x) (hc : c.Sound) : c.Reported x := by
  rcases x with (f | w) | a
  · exact (h f rfl).elim
  · trivial
  · exact hc

theorem Reported.bind_faultless {g : α → Except EmissionFault β} (hx : c.Reported x)
    (hg : ∀ a, Faultless (g a)) : c.Reported (x >>= g) := by
  rcases x with (f | w) | a
  · exact hx
  · trivial
  · exact (hg a).reported hx

theorem reported_mapM {as : List α} {c : α → Check} {g : α → Except EmissionFault β}
    (h : ∀ a, (c a).Reported (g a)) : (each as c).Reported (as.mapM g) := by
  induction as with
  | nil => exact fun _ => nofun
  | cons a as ih =>
    have hr : ((c a).andThen (each as c)).Reported ((a :: as).mapM g) := by
      rw [List.mapM_cons]
      exact (h a).bind fun b => ih.bind_faultless fun bs => faultless_pure _
    apply hr.mono
    · exact fun hs => List.forall_mem_cons.mpr hs
    · rintro f (hf | ⟨hs, hf⟩)
      · exact .here hf
      · exact .later hs hf

end Check

namespace Emission

open Check

variable (em : Emission) (schema : Schema) (entity : Entity)

theorem reported_keyIdentifier (label : RelationshipLabel) (name : String) :
    (Check.require (entity.HasProperty name) (.unknownKeyProperty label name)).Reported
      (em.keyIdentifier entity label name) := by
  unfold keyIdentifier
  split
  next h => exact ⟨Entity.property?_eq_none_iff.mp h, rfl⟩
  next p h => exact (faultless_inflected _).reported ⟨p, Entity.mem_of_property? h⟩

theorem reported_relationshipStatement (r : Relationship) :
    (entity.relationshipCheck schema r).Reported (em.relationshipStatement schema entity r) := by
  unfold relationshipStatement
  by_cases hn : r.properties = []
  · simp only [hn, List.isEmpty_nil, if_true]
    exact .inl ⟨fun h => h hn, rfl⟩
  simp only [List.isEmpty_iff, hn, if_false]
  refine Reported.andThen hn ?_
  split
  next hp =>
    refine .inl ⟨?_, rfl⟩
    rintro ⟨principal, hm, he⟩
    exact Schema.entity?_eq_none_iff.mp hp principal hm he
  next principal hp =>
    refine Reported.andThen ⟨principal, Schema.mem_of_entity? hp⟩ ?_
    apply (reported_mapM (em.reported_keyIdentifier entity _)).bind_faultless
    intro foreignKey
    refine (faultless_inflected _).bind fun predicted => ?_
    refine (faultless_inflected _).bind fun navigation => ?_
    exact (faultless_inflected _).bind fun principalNavigation => faultless_pure _

theorem reported_columnIdentifiers (kind : ColumnList) (name : String) (columns : List String) :
    (entity.columnsCheck kind name columns).Reported
      (em.columnIdentifiers entity kind name columns) := by
  unfold columnIdentifiers
  by_cases hn : columns = []
  · simp only [hn, List.isEmpty_nil, if_true]
    exact .inl ⟨fun h => h rfl, rfl⟩
  simp only [List.isEmpty_iff, hn, if_false]
  refine Reported.andThen hn (reported_mapM fun column => ?_)
  unfold columnIdentifier
  split
  next h => exact ⟨Entity.propertyForColumn?_eq_none_iff.mp h, rfl⟩
  next p h => exact ⟨p, Entity.mem_of_propertyForColumn? h⟩

theorem reported_indexStatement (i : Index) :
    (entity.columnsCheck .index i.name i.columns).Reported (em.indexStatement entity i) :=
  (em.reported_columnIdentifiers entity _ _ _).bind_faultless fun _ => faultless_pure _

theorem reported_alternateKeyStatement (c : UniqueConstraint) :
    (entity.columnsCheck .uniqueConstraint c.name c.columns).Reported
      (em.alternateKeyStatement entity c) :=
  (em.reported_columnIdentifiers entity _ _ _).bind_faultless fun _ => faultless_pure _

theorem reported_plan : (entity.check schema).Reported (em.plan schema entity) := by
  unfold plan
  split
  next name h =>
    obtain ⟨before, after, h, hn, hm⟩ := firstRepeated_nil_eq_some_iff.mp h
    exact .inl ⟨before, name, after, h, hn, hm, rfl⟩
  next h =>
    refine Reported.andThen (firstRepeated_eq_none_iff.mp h).1 ?_
    refine (reported_mapM (em.reported_relationshipStatement schema entity)).bind fun _ => ?_
    refine (reported_mapM (em.reported_indexStatement entity)).bind fun _ => ?_
    exact (reported_mapM (em.reported_alternateKeyStatement entity)).bind_faultless
      fun _ => faultless_pure _

end Emission

/-! ## A small shop -/

namespace Sample

def customers : Entity where
  entityClass := "CustomerEntity"
  mappingClass := "CustomerMapping"
  tableName := "Customers"
  properties := [{ propertyName := "Id", columnName := "Id", isPrimaryKey := true }]

def toCustomer : Relationship where
  propertyName := "CustomerEntity"
  primaryEntity := "CustomerEntity"
  primaryPropertyName := "OrderEntity"
  primaryCardinality := .many
  properties := ["CustomerEntity"]

def orders : Entity where
  entityClass := "OrderEntity"
  mappingClass := "OrderMapping"
  tableName := "Orders"
  properties := [
    { propertyName := "Id", columnName := "id", isPrimaryKey := true },
    { propertyName := "CustomerEntity", columnName := "customer_id" },
    { propertyName := "order date", columnName := "OrderDate" }]
  relationships := [toCustomer]

def shop : Schema := ⟨[customers, orders]⟩

def emission : Emission where
  naming := ⟨.plural, "Entity"⟩

def ordersPlan : MappingPlan where
  entityClass := "OrderEntity"
  mappingClass := "OrderMapping"
  statements := [
    .table "Orders" none,
    .key ["Id"],
    .property "Id" [.columnName "id"],
    .property "CustomerEntity" [.columnName "customer_id"],
    .relationship {
      navigation := "Customer"
      cardinality := .many
      principalNavigation := "Orders"
      foreignKey := ["Customer"] }]
  constants := some {
    name := "Orders"
    columns := [("Id", "id"), ("CustomerEntity", "customer_id"), ("OrderDate", "OrderDate")] }

theorem plan_orders : emission.plan shop orders = .ok ordersPlan := by decide +kernel

def strayOrders : Entity :=
  { orders with
    relationships := [
      toCustomer,
      { toCustomer with isMapped := false, properties := [] },
      { toCustomer with relationshipName := some "FK_Region", properties := ["Id", "Region"] }]
    indexes := [{ name := "IX_Orders" }] }

def settings : CommandLine.Settings where
  emission
  generator := .statements
  style := {}

end Sample

namespace CommandLine.Settings

variable (settings : Settings) (schema : Schema) (entity : Entity)

theorem plan_eq_ok_iff {plan : MappingPlan} :
    settings.plan schema entity = .ok plan ↔ settings.emission.plan schema entity = .ok plan :=
  Outcome.mapError_eq_ok_iff

theorem plan_eq_inflection_iff {w : Inflection.CaseFault} :
    settings.plan schema entity = .error (.inflection w) ↔
      settings.emission.plan schema entity = .error (.inflection w) := by
  unfold plan
  rw [Outcome.mapError_eq_error_iff]
  constructor
  · rintro ⟨f | w', h, he⟩ <;> simp_all
  · exact fun h => ⟨_, h, rfl⟩

/-- Unless a word cannot be inflected, an entity has a plan exactly if it is sound, and otherwise
the failure names its class and the first fault found by the check. -/
theorem plan_outcome (h : ∀ w, settings.plan schema entity ≠ .error (.inflection w)) :
    ((∃ plan, settings.plan schema entity = .ok plan) ↔ entity.Sound schema) ∧
    ∀ failure, settings.plan schema entity = .error failure ↔
      ∃ fault, (entity.check schema).Fault fault ∧
        failure = .metadata entity.entityClass fault := by
  have hr := settings.emission.reported_plan schema entity
  have hw : ∀ w, settings.emission.plan schema entity ≠ .error (.inflection w) :=
    fun w he => h w ((settings.plan_eq_inflection_iff schema entity).mpr he)
  constructor
  · simp only [plan_eq_ok_iff, hr.ok_iff hw, Entity.check_sound_iff]
  · intro failure
    unfold plan
    rw [Outcome.mapError_eq_error_iff]
    constructor
    · rintro ⟨f | w, he, rfl⟩
      · exact ⟨f, (hr.error_iff hw).mp he, rfl⟩
      · exact (hw w he).elim
    · rintro ⟨f, hf, rfl⟩
      exact ⟨.metadata f, (hr.error_iff hw).mpr hf, rfl⟩

open Sample in
theorem plan_outcome_strayOrders :
    (∀ w, Sample.settings.plan shop strayOrders ≠ .error (.inflection w)) ∧
      ¬ strayOrders.Sound shop ∧
      (strayOrders.check shop).Fault (.unknownKeyProperty (.named "FK_Region") "Region") := by
  have he : Sample.settings.plan shop strayOrders =
      .error (.metadata "OrderEntity" (.unknownKeyProperty (.named "FK_Region") "Region")) := by
    decide +kernel
  have hw : ∀ w, Sample.settings.plan shop strayOrders ≠ .error (.inflection w) := by
    intro w
    rw [he]
    exact nofun
  obtain ⟨hs, hf⟩ := Sample.settings.plan_outcome shop strayOrders hw
  refine ⟨hw, fun h => ?_, ?_⟩
  · obtain ⟨plan, hp⟩ := hs.mpr h
    rw [he] at hp
    cases hp
  · obtain ⟨fault, hf, h⟩ := (hf _).mp he
    obtain ⟨-, rfl⟩ := Failure.metadata.inj h
    exact hf

end CommandLine.Settings

end EntityMapping
