import EntityMapping.Proofs.Plan.Acceptance

/-! # Topics of directives

Every directive is about one topic. A property that is no row version has at most one directive on
a topic, and has them in a fixed order of the topics. Whether there is one depends on the metadata
of the column alone, apart from the name of the column, which is compared with the identifier.
-/

namespace EntityMapping

inductive Topic where
  | rowVersion
  | conversion
  | columnName
  | columnType
  | unicode
  | presence
  | maxLength
  | defaultValue
  | computation
  | generation
  deriving DecidableEq, Repr

def Directive.topic : Directive → Topic
  | .rowVersion => .rowVersion
  | .numberToBytesConversion => .conversion
  | .columnName _ => .columnName
  | .columnType _ => .columnType
  | .unicode _ => .unicode
  | .required _ => .presence
  | .maxLength _ => .maxLength
  | .defaultValueSql _ => .defaultValue
  | .computedColumnSql _ => .computation
  | .valueGeneratedOnAdd | .valueGeneratedOnAddOrUpdate | .valueGeneratedOnUpdate => .generation

/-- The topics of a property that is no row version, in the order of its directives. -/
def plainTopics : List Topic :=
  [.columnName, .columnType, .unicode, .presence, .maxLength, .defaultValue, .computation,
   .generation]

def spelledClasses : List StoreTypeClass := [.decimal, .dateTime, .hierarchyId]

section Metadata

variable {o : Option String} {s : String}

theorem nonEmpty_eq_some_iff : nonEmpty o = some s ↔ o = some s ∧ s ≠ "" := by
  simp [nonEmpty, Option.filter_eq_some_iff]

theorem nonEmpty_eq_none_iff : nonEmpty o = none ↔ ∀ s, o = some s → s = "" := by
  simp [nonEmpty, Option.filter_eq_none_iff]

theorem nonBlank_eq_some_iff :
    nonBlank o = some s ↔ o = some s ∧ ∃ c ∈ s.toList, Unicode.isBlank c = false := by
  simp [nonBlank, Option.filter_eq_some_iff, Text.isBlankText]

theorem StoreTypeClass.needsColumnType_iff {c : StoreTypeClass} :
    c.needsColumnType = true ↔ c ∈ spelledClasses := by
  cases c <;> decide

end Metadata

namespace Property

/-- When a property that is bound under the identifier, and is no row version, has a directive on a
topic. -/
def Wants (p : Property) (identifier : String) : Topic → Prop
  | .rowVersion | .conversion => False
  | .columnName => identifier ≠ p.columnName
  | .columnType => ∃ storeType, p.storeType = some storeType ∧ storeType ≠ "" ∧
      (StoreTypeClass.ofStoreType storeType ∈ spelledClasses ∨ p.isHierarchyId = true)
  | .unicode | .presence => p.valueType = .text ∧
      ∃ storeType, p.storeType = some storeType ∧ StoreTypeClass.ofStoreType storeType = .ansiText
  | .maxLength => (p.valueType = .text ∨ p.valueType = .binary) ∧
      (∃ size, p.size = some size ∧ 0 < size) ∧ p.isHierarchyId = false
  | .defaultValue => ∃ sql, p.default = some sql ∧ ∃ c ∈ sql.toList, Unicode.isBlank c = false
  | .computation => (∃ sql, p.computedSql = some sql ∧ sql ≠ "") ∧ p.valueGenerated ≠ .none
  | .generation => p.valueGenerated ≠ .none

/-- What a directive tells of a property is what the metadata tell. -/
def Agrees (p : Property) : Directive → Prop
  | .rowVersion | .numberToBytesConversion => False
  | .columnName name => name = p.columnName
  | .columnType storeType => p.storeType = some storeType
  | .unicode value => value = false
  | .required value => value = !p.isNullable
  | .maxLength size => p.size = some size
  | .defaultValueSql sql =>
    ∃ default, p.default = some default ∧ sql = DefaultValue.stripOuterParens default
  | .computedColumnSql sql => p.computedSql = some sql
  | .valueGeneratedOnAdd => p.valueGenerated = .onAdd
  | .valueGeneratedOnAddOrUpdate => p.valueGenerated = .onAddOrUpdate
  | .valueGeneratedOnUpdate => p.valueGenerated = .onUpdate

/-- Directives on those of the topics that the property wants one on, in their order, which agree
with the metadata. -/
structure Covers (p : Property) (identifier : String) (topics : List Topic)
    (directives : List Directive) : Prop where
  sublist : (directives.map Directive.topic).Sublist topics
  mem_iff : ∀ t ∈ topics, t ∈ directives.map Directive.topic ↔ p.Wants identifier t
  agrees : ∀ d ∈ directives, p.Agrees d

variable {p : Property} {identifier : String} {topics topics' : List Topic}
  {directives directives' : List Directive} {t : Topic} {d : Directive}

theorem Covers.absent (h : ¬ p.Wants identifier t) : p.Covers identifier [t] [] where
  sublist := List.nil_sublist [t]
  mem_iff := List.forall_mem_singleton.mpr (iff_of_false List.not_mem_nil h)
  agrees := nofun

theorem Covers.single (hw : p.Wants identifier d.topic) (ha : p.Agrees d) :
    p.Covers identifier [d.topic] [d] where
  sublist := List.Sublist.refl [d.topic]
  mem_iff t ht := by
    obtain rfl := List.mem_singleton.mp ht
    exact iff_of_true ht hw
  agrees := List.forall_mem_singleton.mpr ha

theorem Covers.append (h : p.Covers identifier topics directives)
    (h' : p.Covers identifier topics' directives') (hn : ∀ t ∈ topics, t ∉ topics') :
    p.Covers identifier (topics ++ topics') (directives ++ directives') where
  sublist := by
    rw [List.map_append]
    exact h.sublist.append h'.sublist
  mem_iff t ht := by
    rw [List.map_append, List.mem_append]
    rcases List.mem_append.mp ht with ht | ht
    · have hd : t ∉ directives'.map Directive.topic := fun hd => hn t ht (h'.sublist.subset hd)
      rw [or_iff_left hd, h.mem_iff t ht]
    · have hd : t ∉ directives.map Directive.topic := fun hd => hn t (h.sublist.subset hd) ht
      rw [or_iff_right hd, h'.mem_iff t ht]
  agrees := List.forall_mem_append.mpr ⟨h.agrees, h'.agrees⟩

/-! ## The parts of the directives -/

theorem storeTypeClass_eq_iff {c : StoreTypeClass} (hc : c ≠ .other) :
    p.storeTypeClass = c ↔
      ∃ storeType, p.storeType = some storeType ∧ StoreTypeClass.ofStoreType storeType = c := by
  unfold storeTypeClass
  split
  next h =>
    rw [nonEmpty_eq_none_iff] at h
    refine iff_of_false hc.symm ?_
    rintro ⟨s, hs, rfl⟩
    rw [h s hs] at hc
    exact hc (by decide +kernel)
  next storeType h =>
    simp [(nonEmpty_eq_some_iff.mp h).1]

theorem covers_columnName :
    p.Covers identifier [.columnName] (p.columnNameDirective identifier) := by
  unfold columnNameDirective
  split
  next h => exact .absent fun hw => hw h
  next h => exact .single (d := .columnName p.columnName) h rfl

theorem covers_columnType : p.Covers identifier [.columnType] p.columnTypeDirective := by
  unfold columnTypeDirective
  split
  next h =>
    rw [nonEmpty_eq_none_iff] at h
    exact .absent fun ⟨s, hs, hn, _⟩ => hn (h s hs)
  next storeType h =>
    obtain ⟨hs, hn⟩ := nonEmpty_eq_some_iff.mp h
    have hc : p.storeTypeClass = .ofStoreType storeType := by simp [storeTypeClass, h]
    have hiff : (p.storeTypeClass.needsColumnType || p.isHierarchyId) = true ↔
        StoreTypeClass.ofStoreType storeType ∈ spelledClasses ∨ p.isHierarchyId = true := by
      rw [Bool.or_eq_true, hc, StoreTypeClass.needsColumnType_iff]
    split
    next hif => exact .single (d := .columnType storeType) ⟨storeType, hs, hn, hiff.mp hif⟩ hs
    next hif =>
      refine .absent ?_
      rintro ⟨s, hs', -, hw⟩
      obtain rfl := Option.some.inj (hs.symm.trans hs')
      exact hif (hiff.mpr hw)

theorem covers_ansiText : p.Covers identifier [.unicode, .presence] p.ansiTextDirectives := by
  have hiff : (p.valueType.isText && p.storeTypeClass = .ansiText) = true ↔
      p.Wants identifier .unicode := by
    simp [Wants, ValueType.isText, storeTypeClass_eq_iff]
  unfold ansiTextDirectives
  split
  next h =>
    have hu : p.Covers identifier [.unicode] [.unicode false] :=
      .single (d := .unicode false) (hiff.mp h) rfl
    exact hu.append (.single (d := .required (!p.isNullable)) (hiff.mp h) rfl) (by decide)
  next h =>
    have hw : ¬ p.Wants identifier .unicode := fun hw => h (hiff.mpr hw)
    have hu : p.Covers identifier [.unicode] [] := .absent hw
    exact hu.append (.absent (t := .presence) hw) (by decide)

theorem covers_maxLength (h : p.isRowVersion = false) :
    p.Covers identifier [.maxLength] p.maxLengthDirective := by
  have hiff : (p.valueType.isSized && !p.isRowVersion && !p.isHierarchyId) = true ↔
      (p.valueType = .text ∨ p.valueType = .binary) ∧ p.isHierarchyId = false := by
    simp [ValueType.isSized, h]
  unfold maxLengthDirective
  split
  next hif =>
    obtain ⟨ht, hh⟩ := hiff.mp hif
    split
    next size hs =>
      split
      next hpos => exact .single (d := .maxLength size) ⟨ht, ⟨size, hs, hpos⟩, hh⟩ hs
      next hpos =>
        refine .absent ?_
        rintro ⟨-, ⟨size', hs', hpos'⟩, -⟩
        obtain rfl := Option.some.inj (hs.symm.trans hs')
        exact hpos hpos'
    next hs =>
      refine .absent ?_
      rintro ⟨-, ⟨size, hs', -⟩, -⟩
      cases hs.symm.trans hs'
  next hif => exact .absent fun ⟨ht, _, hh⟩ => hif (hiff.mpr ⟨ht, hh⟩)

theorem covers_defaultValue : p.Covers identifier [.defaultValue] p.defaultValueDirective := by
  unfold defaultValueDirective
  split
  next h =>
    refine .absent ?_
    rintro ⟨sql, hs, hb⟩
    cases h.symm.trans (nonBlank_eq_some_iff.mpr ⟨hs, hb⟩)
  next sql h =>
    obtain ⟨hs, hb⟩ := nonBlank_eq_some_iff.mp h
    exact .single (d := .defaultValueSql _) ⟨sql, hs, hb⟩ ⟨sql, hs, rfl⟩

theorem covers_computedColumn (h : p.valueGenerated ≠ .none) :
    p.Covers identifier [.computation] p.computedColumnDirective := by
  unfold computedColumnDirective
  split
  next hn =>
    rw [nonEmpty_eq_none_iff] at hn
    exact .absent fun ⟨⟨s, hs, he⟩, _⟩ => he (hn s hs)
  next sql hn =>
    rw [nonEmpty_eq_some_iff] at hn
    exact .single (d := .computedColumnSql sql) ⟨⟨sql, hn⟩, h⟩ hn.1

theorem covers_generation (h : p.isRowVersion = false) :
    p.Covers identifier [.computation, .generation] p.generationDirectives := by
  unfold generationDirectives
  rw [if_neg (by simp [h])]
  have hsplit : ∀ d : Directive, d.topic = .generation → p.valueGenerated ≠ .none → p.Agrees d →
      p.Covers identifier [.computation, .generation] (p.computedColumnDirective ++ [d]) := by
    intro d ht hg ha
    have hd : p.Covers identifier [d.topic] [d] := .single (ht ▸ hg) ha
    rw [ht] at hd
    exact (covers_computedColumn hg).append hd (by decide)
  cases hg : p.valueGenerated with
  | none =>
    have hc : p.Covers identifier [.computation] [] := .absent fun hw => hw.2 hg
    exact hc.append (.absent (t := .generation) fun hw => hw hg) (by decide)
  | onAdd => exact hsplit .valueGeneratedOnAdd rfl (by simp [hg]) hg
  | onAddOrUpdate => exact hsplit .valueGeneratedOnAddOrUpdate rfl (by simp [hg]) hg
  | onUpdate => exact hsplit .valueGeneratedOnUpdate rfl (by simp [hg]) hg

theorem covers_directives (h : p.isRowVersion = false) :
    p.Covers identifier plainTopics (p.directives identifier) := by
  have hr : p.rowVersionDirectives = [] := by simp [rowVersionDirectives, h]
  rw [directives, hr, List.nil_append]
  exact ((((covers_columnName.append covers_columnType (by decide)).append
    covers_ansiText (by decide)).append (covers_maxLength h) (by decide)).append
    covers_defaultValue (by decide)).append (covers_generation h) (by decide)

theorem mem_plainTopics (h : p.Wants identifier t) : t ∈ plainTopics := by
  cases t with
  | rowVersion | conversion => exact h.elim
  | _ => decide

theorem topic_mem_iff (h : p.isRowVersion = false) :
    t ∈ (p.directives identifier).map Directive.topic ↔ p.Wants identifier t := by
  have hc : p.Covers identifier plainTopics (p.directives identifier) := covers_directives h
  constructor
  · intro ht
    exact (hc.mem_iff t (hc.sublist.subset ht)).mp ht
  · intro hw
    exact (hc.mem_iff t (mem_plainTopics hw)).mpr hw

end Property

namespace Emission

theorem propertyStatement?_eq_none_iff {em : Emission} {p : Property} :
    em.propertyStatement? p = none ↔ p.directives (em.identifier p) = [] := by
  unfold propertyStatement?
  split
  next h => simp [h]
  next h => exact iff_of_false (Option.some_ne_none _) h

/-- The directives of a property that is no row version, whatever the policy: at most one on each
topic, in the order of the topics, on exactly those that the property wants one on, and with the
values of the metadata. Without any, the property has no statement. -/
theorem propertyStatement?_plain (em : Emission) (p : Property) (h : p.isRowVersion = false) :
    ((p.directives (em.identifier p)).map Directive.topic).Nodup ∧
    ((p.directives (em.identifier p)).map Directive.topic).Sublist plainTopics ∧
    (∀ t, t ∈ (p.directives (em.identifier p)).map Directive.topic ↔
      p.Wants (em.identifier p) t) ∧
    (∀ d ∈ p.directives (em.identifier p), p.Agrees d) ∧
    (em.propertyStatement? p = none ↔ ∀ t, ¬ p.Wants (em.identifier p) t) := by
  have hc : p.Covers (em.identifier p) plainTopics (p.directives (em.identifier p)) :=
    Property.covers_directives h
  have hmem : ∀ t, t ∈ (p.directives (em.identifier p)).map Directive.topic ↔
      p.Wants (em.identifier p) t := fun t => Property.topic_mem_iff h
  refine ⟨hc.sublist.nodup (by decide), hc.sublist, hmem, hc.agrees, ?_⟩
  rw [propertyStatement?_eq_none_iff, ← List.map_eq_nil_iff (f := Directive.topic),
    List.eq_nil_iff_forall_not_mem]
  exact forall_congr' fun t => not_congr (hmem t)

end Emission

namespace Sample

def price : Property where
  propertyName := "unit price"
  columnName := "unit_price"
  valueType := .numeric
  storeType := some " DECIMAL(18, 2)"
  size := some 9
  default := some " "
  computedSql := some "cost * 2"
  valueGenerated := .onAddOrUpdate

end Sample

open Sample in
theorem Emission.propertyStatement?_price :
    price.isRowVersion = false ∧ emission.propertyStatement? price ≠ none ∧
      Topic.columnType ∈ (price.directives (emission.identifier price)).map Directive.topic ∧
      Topic.computation ∈ (price.directives (emission.identifier price)).map Directive.topic ∧
      Topic.maxLength ∉ (price.directives (emission.identifier price)).map Directive.topic ∧
      Topic.defaultValue ∉ (price.directives (emission.identifier price)).map Directive.topic := by
  obtain ⟨-, -, hmem, -, hnone⟩ := emission.propertyStatement?_plain price rfl
  have htype : price.Wants (emission.identifier price) .columnType :=
    ⟨" DECIMAL(18, 2)", rfl, by decide, .inl (by decide +kernel)⟩
  have hcomputed : price.Wants (emission.identifier price) .computation :=
    ⟨⟨"cost * 2", rfl, by decide⟩, by decide⟩
  refine ⟨rfl, fun hn => hnone.mp hn _ htype, (hmem _).mpr htype, (hmem _).mpr hcomputed, ?_, ?_⟩
  · rw [hmem]
    rintro ⟨ht | ht, -⟩ <;> cases ht
  · rw [hmem]
    rintro ⟨sql, hs, c, hc, hb⟩
    cases hs
    obtain rfl : c = ' ' := by simpa using hc
    exact absurd hb (by decide)

end EntityMapping
