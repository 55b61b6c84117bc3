import EntityMapping.Plan.Emission

/-! # The directives of a property

What each part of the directives of a property holds, and when. Parts do not overlap in the kinds
of directives that they hold, row versions aside, so a kind is found by looking at its own part.
-/

namespace EntityMapping.Property

variable {p : Property} {d : Directive}

theorem mem_rowVersionDirectives :
    d ∈ p.rowVersionDirectives ↔ p.isRowVersion = true ∧
      (d = .rowVersion ∨ d = .required true ∨ d = .numberToBytesConversion ∨
        d = .columnType "rowversion") := by
  unfold rowVersionDirectives
  split <;> simp_all

theorem mem_columnTypeDirective :
    d ∈ p.columnTypeDirective ↔ ∃ storeType, nonEmpty p.storeType = some storeType ∧
      (p.storeTypeClass.needsColumnType = true ∨ p.isHierarchyId = true) ∧
      d = .columnType storeType := by
  unfold columnTypeDirective
  cases nonEmpty p.storeType with
  | none => simp
  | some storeType => simp only [Bool.or_eq_true]; split <;> simp_all

theorem mem_ansiTextDirectives :
    d ∈ p.ansiTextDirectives ↔ (p.valueType.isText = true ∧ p.storeTypeClass = .ansiText) ∧
      (d = .unicode false ∨ d = .required (!p.isNullable)) := by
  unfold ansiTextDirectives
  split <;> simp_all

theorem mem_maxLengthDirective :
    d ∈ p.maxLengthDirective ↔
      (p.valueType.isSized = true ∧ p.isRowVersion = false ∧ p.isHierarchyId = false) ∧
      ∃ size, p.size = some size ∧ 0 < size ∧ d = .maxLength size := by
  unfold maxLengthDirective
  simp only [Bool.and_eq_true, Bool.not_eq_true', and_assoc]
  split
  next h =>
    cases p.size with
    | none => simp
    | some size =>
      simp only [h, true_and, Option.some.injEq, exists_eq_left']
      by_cases hs : 0 < size <;> simp only [hs, if_true, if_false] <;> simp
  next h => simp_all

theorem mem_defaultValueDirective :
    d ∈ p.defaultValueDirective ↔ ∃ sql, nonBlank p.default = some sql ∧
      d = .defaultValueSql (DefaultValue.stripOuterParens sql) := by
  unfold defaultValueDirective
  cases nonBlank p.default <;> simp

theorem mem_computedColumnDirective :
    d ∈ p.computedColumnDirective ↔
      ∃ sql, nonEmpty p.computedSql = some sql ∧ d = .computedColumnSql sql := by
  unfold computedColumnDirective
  cases nonEmpty p.computedSql <;> simp

theorem mem_generationDirectives :
    d ∈ p.generationDirectives ↔ p.isRowVersion = false ∧
      (p.valueGenerated ≠ .none ∧ d ∈ p.computedColumnDirective ∨
        p.valueGenerated = .onAdd ∧ d = .valueGeneratedOnAdd ∨
        p.valueGenerated = .onAddOrUpdate ∧ d = .valueGeneratedOnAddOrUpdate ∨
        p.valueGenerated = .onUpdate ∧ d = .valueGeneratedOnUpdate) := by
  unfold generationDirectives
  split
  next h => simp [h]
  next h => cases p.valueGenerated <;> simp [h]

end EntityMapping.Property
