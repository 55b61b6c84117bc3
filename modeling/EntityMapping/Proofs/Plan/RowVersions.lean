import EntityMapping.Plan.Snapshot
import EntityMapping.Proofs.Plan.Acceptance
import EntityMapping.Proofs.Plan.Directives

/-! # Row versions

A row version is bound by four directives of its own, which say all that there is to say about its
type and its presence. No length, no computation and no generation follows them, but the metadata
of the column still have their say: a store type that has to be spelled out is spelled out once
more, and text without Unicode says again whether it is required.
-/

namespace EntityMapping

/-- The directives that every row version begins with. -/
def rowVersionGroup : List Directive :=
  [.rowVersion, .required true, .numberToBytesConversion, .columnType "rowversion"]

/-- The kinds of directives that limit, compute or generate a value. -/
def valueKinds : List String :=
  ["max_length", "computed_column_sql", "value_generated_on_add",
   "value_generated_on_add_or_update", "value_generated_on_update"]

/-- Directives that begin with those of a row version and come back to none of their kinds, nor
limit, compute or generate the value. -/
def RowVersionSettled (directives : List Directive) : Prop :=
  ∃ later, directives = rowVersionGroup ++ later ∧
    ∀ d ∈ later, d.kind ∉ rowVersionGroup.map Directive.kind ∧ d.kind ∉ valueKinds

namespace Property

variable {p : Property} {d : Directive} {identifier : String}

/-- Whether the column has a store type that is spelled out. -/
def SpellsStoreType (p : Property) : Prop :=
  (nonEmpty p.storeType).isSome ∧ (p.storeTypeClass.needsColumnType ∨ p.isHierarchyId)

def IsAnsiText (p : Property) : Prop := p.valueType.isText ∧ p.storeTypeClass = .ansiText

def laterDirectives (p : Property) (identifier : String) : List Directive :=
  p.columnNameDirective identifier ++ p.columnTypeDirective ++ p.ansiTextDirectives ++
    p.defaultValueDirective

theorem directives_of_isRowVersion (h : p.isRowVersion = true) (identifier : String) :
    p.directives identifier = rowVersionGroup ++ p.laterDirectives identifier := by
  have hr : p.rowVersionDirectives = rowVersionGroup := by
    rw [rowVersionDirectives, if_pos h, rowVersionGroup]
  have hm : p.maxLengthDirective = [] := by simp [maxLengthDirective, h]
  have hg : p.generationDirectives = [] := by simp [generationDirectives, h]
  simp only [directives, laterDirectives, hr, hm, hg, List.append_nil, List.append_assoc]

theorem mem_columnNameDirective :
    d ∈ p.columnNameDirective identifier ↔
      identifier ≠ p.columnName ∧ d = .columnName p.columnName := by
  unfold columnNameDirective
  split <;> simp_all

theorem mem_laterDirectives :
    d ∈ p.laterDirectives identifier ↔
      d ∈ p.columnNameDirective identifier ∨ d ∈ p.columnTypeDirective ∨
        d ∈ p.ansiTextDirectives ∨ d ∈ p.defaultValueDirective := by
  simp only [laterDirectives, List.mem_append, or_assoc]

theorem columnType_mem_laterDirectives {storeType : String} :
    .columnType storeType ∈ p.laterDirectives identifier ↔
      p.SpellsStoreType ∧ p.storeType = some storeType := by
  have hs : ∀ s, nonEmpty p.storeType = some s → p.storeType = some s := fun _ h =>
    (Option.filter_eq_some_iff.mp h).1
  simp only [mem_laterDirectives, mem_columnNameDirective, mem_columnTypeDirective,
    mem_ansiTextDirectives, mem_defaultValueDirective]
  constructor
  · rintro (⟨-, h⟩ | ⟨s, hn, hc, h⟩ | ⟨-, h | h⟩ | ⟨_, -, h⟩)
    case inr.inl =>
      obtain rfl := Directive.columnType.inj h
      exact ⟨⟨by simp [hn], hc⟩, hs _ hn⟩
    all_goals cases h
  · rintro ⟨⟨hn, hc⟩, he⟩
    obtain ⟨s, hn⟩ := Option.isSome_iff_exists.mp hn
    obtain rfl : s = storeType := Option.some.inj ((hs s hn).symm.trans he)
    exact .inr (.inl ⟨s, hn, hc, rfl⟩)

theorem required_mem_laterDirectives {value : Bool} :
    .required value ∈ p.laterDirectives identifier ↔
      p.IsAnsiText ∧ value = !p.isNullable := by
  simp only [mem_laterDirectives, mem_columnNameDirective, mem_columnTypeDirective,
    mem_ansiTextDirectives, mem_defaultValueDirective, IsAnsiText]
  constructor
  · rintro (⟨-, h⟩ | ⟨_, -, -, h⟩ | ⟨ha, h | h⟩ | ⟨_, -, h⟩)
    case inr.inr.inl.inr => exact ⟨ha, Directive.required.inj h⟩
    all_goals cases h
  · rintro ⟨ha, rfl⟩
    exact .inr (.inr (.inl ⟨ha, .inr rfl⟩))

theorem cases_of_mem_laterDirectives (h : d ∈ p.laterDirectives identifier) :
    (∃ name, d = .columnName name) ∨ (∃ storeType, d = .columnType storeType) ∨
      d = .unicode false ∨ (∃ value, d = .required value) ∨ ∃ sql, d = .defaultValueSql sql := by
  rw [mem_laterDirectives, mem_columnNameDirective, mem_columnTypeDirective,
    mem_ansiTextDirectives, mem_defaultValueDirective] at h
  rcases h with ⟨-, rfl⟩ | ⟨storeType, -, -, rfl⟩ | ⟨-, rfl | rfl⟩ | ⟨sql, -, rfl⟩
  · exact .inl ⟨_, rfl⟩
  · exact .inr (.inl ⟨_, rfl⟩)
  · exact .inr (.inr (.inl rfl))
  · exact .inr (.inr (.inr (.inl ⟨_, rfl⟩)))
  · exact .inr (.inr (.inr (.inr ⟨_, rfl⟩)))

theorem rowVersionSettled_iff (h : p.isRowVersion = true) :
    RowVersionSettled (p.directives identifier) ↔ ¬ p.SpellsStoreType ∧ ¬ p.IsAnsiText := by
  rw [directives_of_isRowVersion h]
  constructor
  · rintro ⟨later, he, hl⟩
    obtain rfl := List.append_cancel_left he
    constructor
    · intro hs
      obtain ⟨storeType, ht⟩ : ∃ storeType, p.storeType = some storeType := by
        obtain ⟨s, hn⟩ := Option.isSome_iff_exists.mp hs.1
        exact ⟨s, (Option.filter_eq_some_iff.mp hn).1⟩
      exact (hl _ (columnType_mem_laterDirectives.mpr ⟨hs, ht⟩)).1
        (by simp [rowVersionGroup, Directive.kind])
    · intro ha
      exact (hl _ (required_mem_laterDirectives.mpr ⟨ha, rfl⟩)).1
        (by simp [rowVersionGroup, Directive.kind])
  · rintro ⟨hs, ha⟩
    refine ⟨_, rfl, fun d hd => ?_⟩
    rcases cases_of_mem_laterDirectives hd with ⟨_, rfl⟩ | ⟨_, rfl⟩ | rfl | ⟨_, rfl⟩ | ⟨_, rfl⟩
    case inr.inl => exact (hs (columnType_mem_laterDirectives.mp hd).1).elim
    case inr.inr.inr.inl => exact (ha (required_mem_laterDirectives.mp hd).1).elim
    all_goals simp [rowVersionGroup, valueKinds, Directive.kind]

end Property

/-- A row version always has a statement. Its directives begin with the four that mark it, and none
after them marks, converts, limits, computes or generates. The store type is set once more exactly
if that of the column is spelled out, and the presence exactly if it holds text without Unicode. -/
theorem Emission.propertyStatement?_rowVersion (em : Emission) (p : Property)
    (h : p.isRowVersion = true) :
    ∃ later, em.propertyStatement? p =
        some (.property (em.identifier p) (rowVersionGroup ++ later)) ∧
      (∀ d ∈ later, d ≠ .rowVersion ∧ d ≠ .numberToBytesConversion ∧ d.kind ∉ valueKinds) ∧
      (∀ storeType, .columnType storeType ∈ later ↔
        p.SpellsStoreType ∧ p.storeType = some storeType) ∧
      (∀ value, .required value ∈ later ↔ p.IsAnsiText ∧ value = !p.isNullable) ∧
      (RowVersionSettled (rowVersionGroup ++ later) ↔ ¬ p.SpellsStoreType ∧ ¬ p.IsAnsiText) := by
  have hd := p.directives_of_isRowVersion h (em.identifier p)
  refine ⟨p.laterDirectives (em.identifier p), ?_, fun d hd => ?_,
    fun _ => Property.columnType_mem_laterDirectives,
    fun _ => Property.required_mem_laterDirectives, ?_⟩
  · unfold propertyStatement?
    rw [hd]
    rfl
  · rcases Property.cases_of_mem_laterDirectives hd with
      ⟨_, rfl⟩ | ⟨_, rfl⟩ | rfl | ⟨_, rfl⟩ | ⟨_, rfl⟩ <;> simp [Directive.kind, valueKinds]
  · rw [← hd]
    exact Property.rowVersionSettled_iff h

namespace Sample

def changed : Property where
  propertyName := "Changed"
  columnName := "Changed"
  storeType := some "datetime"
  isRowVersion := true

def revision : Property where
  propertyName := "Revision"
  columnName := "Revision"
  valueType := .text
  storeType := some "varchar(8)"
  isNullable := true
  isRowVersion := true

end Sample

namespace Emission

open Sample in
theorem propertyStatement?_changed :
    changed.isRowVersion = true ∧
      ∃ later, emission.propertyStatement? changed =
          some (.property (emission.identifier changed) (rowVersionGroup ++ later)) ∧
        .columnType "datetime" ∈ later ∧ ∀ value, .required value ∉ later := by
  obtain ⟨later, hs, -, ht, hr, -⟩ := emission.propertyStatement?_rowVersion changed rfl
  have hspelled : changed.SpellsStoreType := ⟨by decide +kernel, .inl (by decide +kernel)⟩
  have hplain : ¬ changed.IsAnsiText := fun h => by cases h.1
  exact ⟨rfl, later, hs, (ht _).mpr ⟨hspelled, rfl⟩, fun value h => hplain ((hr value).mp h).1⟩

open Sample in
/-- Row versions that do not stay of their type and do not stay required. -/
theorem rowVersions_overruled :
    (changed.isRowVersion = true ∧
      emission.propertyStatement? changed =
        some (.property "Changed" (rowVersionGroup ++ [.columnType "datetime"])) ∧
      ¬ RowVersionSettled (rowVersionGroup ++ [.columnType "datetime"])) ∧
    (revision.isRowVersion = true ∧
      emission.propertyStatement? revision =
        some (.property "Revision" (rowVersionGroup ++ [.unicode false, .required false])) ∧
      ¬ RowVersionSettled (rowVersionGroup ++ [.unicode false, .required false])) := by
  have hn : ∀ {later d}, d ∈ later → d.kind ∈ rowVersionGroup.map Directive.kind →
      ¬ RowVersionSettled (rowVersionGroup ++ later) := by
    rintro later d hd hk ⟨_, he, hl⟩
    obtain rfl := List.append_cancel_left he
    exact (hl d hd).1 hk
  refine ⟨⟨rfl, by decide +kernel, hn (d := .columnType "datetime") ?_ ?_⟩,
    ⟨rfl, by decide +kernel, hn (d := .required false) ?_ ?_⟩⟩ <;> decide

end Emission

end EntityMapping
