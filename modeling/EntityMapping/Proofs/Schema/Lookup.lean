import EntityMapping.Schema.Basic
import Mathlib.Data.List.Nodup

/-! # Finding entities, properties and columns

Looking a name up finds an element that has it, and finds nothing only where no element does. Where
names and columns differ, the order of the properties does not matter.
-/

namespace EntityMapping

section Keys

variable {α : Type} {key : α → String} {as bs : List α} {a : α}

theorem find?_eq_some_iff_of_nodup (hn : (as.map key).Nodup) (k : String) :
    as.find? (key · == k) = some a ↔ a ∈ as ∧ key a = k := by
  constructor
  · intro h
    exact ⟨List.mem_of_find?_eq_some h, by simpa using List.find?_some h⟩
  · rintro ⟨ha, rfl⟩
    cases hf : as.find? (key · == key a) with
    | none => simpa using List.find?_eq_none.mp hf a ha
    | some b =>
      have hb : key b = key a := by simpa using List.find?_some hf
      rw [List.inj_on_of_nodup_map hn (List.mem_of_find?_eq_some hf) ha hb]

theorem find?_eq_of_perm (hp : as.Perm bs) (hn : (as.map key).Nodup) (k : String) :
    as.find? (key · == k) = bs.find? (key · == k) := by
  ext a
  rw [find?_eq_some_iff_of_nodup hn, find?_eq_some_iff_of_nodup ((hp.map key).nodup hn),
    hp.mem_iff]

end Keys

namespace Schema

variable {schema : Schema} {entity : Entity} {className : String}

theorem entity?_eq_none_iff :
    schema.entity? className = none ↔ ∀ e ∈ schema.entities, e.entityClass ≠ className := by
  simp [entity?]

theorem mem_of_entity? (h : schema.entity? className = some entity) :
    entity ∈ schema.entities ∧ entity.entityClass = className :=
  ⟨List.mem_of_find?_eq_some h, by simpa using List.find?_some h⟩

end Schema

namespace Entity

variable {entity : Entity} {p : Property} {name column : String}

def HasProperty (entity : Entity) (name : String) : Prop :=
  ∃ p ∈ entity.properties, p.propertyName = name

/-- Some property of the entity has that column, or failing it that name. -/
def HasColumn (entity : Entity) (column : String) : Prop :=
  ∃ p ∈ entity.properties, p.columnName = column ∨ p.propertyName = column

def IsColumn (entity : Entity) (entry : String) : Prop :=
  ∃ p ∈ entity.properties, p.columnName = entry

theorem property?_eq_none_iff : entity.property? name = none ↔ ¬ entity.HasProperty name := by
  simp [property?, HasProperty]

theorem mem_of_property? (h : entity.property? name = some p) :
    p ∈ entity.properties ∧ p.propertyName = name :=
  ⟨List.mem_of_find?_eq_some h, by simpa using List.find?_some h⟩

theorem propertyForColumn?_eq_none_iff :
    entity.propertyForColumn? column = none ↔ ¬ entity.HasColumn column := by
  simp only [propertyForColumn?, Option.or_eq_none_iff, property?_eq_none_iff, HasProperty,
    HasColumn, List.find?_eq_none, beq_iff_eq, not_exists, not_and, not_or]
  exact ⟨fun ⟨hc, hn⟩ p hp => ⟨hc p hp, hn p hp⟩, fun h => ⟨fun p hp => (h p hp).1,
    fun p hp => (h p hp).2⟩⟩

theorem mem_of_propertyForColumn? (h : entity.propertyForColumn? column = some p) :
    p ∈ entity.properties ∧ (p.columnName = column ∨ p.propertyName = column) := by
  rcases Option.or_eq_some_iff.mp h with h | ⟨_, h⟩
  · exact ⟨List.mem_of_find?_eq_some h, .inl (by simpa using List.find?_some h)⟩
  · exact ⟨(mem_of_property? h).1, .inr (mem_of_property? h).2⟩

theorem columnName_eq_iff_of_propertyForColumn? (h : entity.propertyForColumn? column = some p) :
    p.columnName = column ↔ entity.IsColumn column := by
  constructor
  · exact fun hc => ⟨p, (mem_of_propertyForColumn? h).1, hc⟩
  · rintro ⟨q, hq, rfl⟩
    rcases Option.or_eq_some_iff.mp h with hf | ⟨hf, -⟩
    · simpa using List.find?_some hf
    · simpa using List.find?_eq_none.mp hf q hq

section Order

variable {properties : List Property}

theorem property?_eq_of_perm (hp : entity.properties.Perm properties)
    (hn : (entity.properties.map (·.propertyName)).Nodup) (name : String) :
    property? { entity with properties } name = entity.property? name :=
  (find?_eq_of_perm hp hn name).symm

/-- A listed column stands for the same property in any order of the properties, also where it is
no column but the name of one. -/
theorem propertyForColumn?_eq_of_perm (hp : entity.properties.Perm properties)
    (hn : (entity.properties.map (·.propertyName)).Nodup)
    (hc : (entity.properties.map (·.columnName)).Nodup) (column : String) :
    propertyForColumn? { entity with properties } column = entity.propertyForColumn? column := by
  rw [propertyForColumn?, propertyForColumn?, property?_eq_of_perm hp hn,
    find?_eq_of_perm hp hc column]

end Order

end Entity

end EntityMapping
