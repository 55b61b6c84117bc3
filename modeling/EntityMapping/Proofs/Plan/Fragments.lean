import EntityMapping.Proofs.Plan.DefaultValues
import EntityMapping.Proofs.Plan.Directives
import EntityMapping.Proofs.Plan.Statements
import EntityMapping.Proofs.Plan.Topics
import EntityMapping.Proofs.Related

/-! # SQL in a plan

A plan takes over three kinds of SQL from the metadata: default values, computations and the filters
of indexes. A filter always has something in it. A default value is looked at before its parentheses
are taken off and not after, and a computation only has to be more than the empty text, so these two
can come out blank.
-/

namespace EntityMapping

def HasText (s : String) : Prop := ∃ c ∈ s.toList, Unicode.isBlank c = false

instance (s : String) : Decidable (HasText s) :=
  decidable_of_iff (s.toList.any fun c => !Unicode.isBlank c) (by simp [HasText])

def Directive.fragment? : Directive → Option String
  | .defaultValueSql sql | .computedColumnSql sql => some sql
  | _ => none

def Statement.fragments : Statement → List String
  | .property _ directives => directives.filterMap Directive.fragment?
  | .index i => i.filter.toList
  | _ => []

/-- All the SQL that a plan has. -/
def MappingPlan.fragments (plan : MappingPlan) : List String :=
  plan.statements.flatMap Statement.fragments

namespace DefaultValue

open Text Unicode

/-- A pair of parentheses with at most blanks in and around it. -/
def IsEmptyPair (expression : String) : Prop :=
  ∃ mid, trim expression.toList = '(' :: (mid ++ [')']) ∧ ∀ c ∈ mid, isBlank c = true

variable {s : List Char} {expression : String}

theorem exists_trim_iff : (∃ c ∈ trim s, isBlank c = false) ↔ ∃ c ∈ s, isBlank c = false := by
  obtain ⟨front, back, hf, hb, hs⟩ := exists_blank_trim s
  constructor
  · rintro ⟨c, hc, hn⟩
    refine ⟨c, ?_, hn⟩
    rw [hs]
    exact List.mem_append_right _ (List.mem_append_left _ hc)
  · rintro ⟨c, hc, hn⟩
    refine ⟨c, ?_, hn⟩
    rw [hs] at hc
    rcases List.mem_append.mp hc with hc | hc
    · exact Bool.noConfusion ((hf c hc).symm.trans hn)
    · rcases List.mem_append.mp hc with hc | hc
      · exact hc
      · exact Bool.noConfusion ((hb c hc).symm.trans hn)

theorem IsEmptyPair.hasText (h : IsEmptyPair expression) : HasText expression := by
  obtain ⟨mid, hs, -⟩ := h
  refine exists_trim_iff.mp ⟨'(', ?_, by decide⟩
  rw [hs]
  exact List.mem_cons_self

theorem hasText_stripOuterParens_iff (h : HasText expression) :
    HasText (stripOuterParens expression) ↔ ¬ IsEmptyPair expression := by
  by_cases hw : ∃ mid, trim expression.toList = '(' :: (mid ++ [')']) ∧ Upright mid
  · obtain ⟨mid, hs, hu⟩ := hw
    have hpair : IsEmptyPair expression ↔ ∀ c ∈ mid, isBlank c = true := by
      constructor
      · rintro ⟨mid', hs', hb⟩
        rw [hs] at hs'
        rwa [List.append_cancel_right (List.cons.inj hs').2]
      · exact fun hb => ⟨mid, hs, hb⟩
    rw [stripOuterParens_of_upright hs hu, HasText, String.toList_ofList, exists_trim_iff, hpair]
    simp
  · rw [stripOuterParens_of_not_upright fun mid hs hu => hw ⟨mid, hs, hu⟩, HasText,
      String.toList_ofList, exists_trim_iff]
    refine iff_of_true h ?_
    rintro ⟨mid, hs, hb⟩
    exact hw ⟨mid, hs, upright_of_isBlank hb⟩

theorem isEmptyPair_iff :
    IsEmptyPair expression ↔ HasText expression ∧ ¬ HasText (stripOuterParens expression) := by
  constructor
  · intro h
    exact ⟨h.hasText, fun ht => (hasText_stripOuterParens_iff h.hasText).mp ht h⟩
  · rintro ⟨ht, hn⟩
    exact not_not.mp (mt (hasText_stripOuterParens_iff ht).mpr hn)

instance (expression : String) : Decidable (IsEmptyPair expression) :=
  decidable_of_iff _ isEmptyPair_iff.symm

end DefaultValue

namespace Property

variable {p : Property} {sql identifier : String}

/-- The SQL that the directives of a property have. -/
inductive Gives (p : Property) : String → Prop
  | default {expression : String} : p.default = some expression → HasText expression →
      p.Gives (DefaultValue.stripOuterParens expression)
  | computation {sql : String} : p.isRowVersion = false → p.valueGenerated ≠ .none →
      p.computedSql = some sql → sql ≠ "" → p.Gives sql

/-- Whether no SQL of a property comes out blank: its default value is no empty pair, and what it is
computed by, if that is part of its directives, is empty or has text in it. -/
structure GivesText (p : Property) : Prop where
  default : ∀ expression ∈ p.default, ¬ DefaultValue.IsEmptyPair expression
  computation : p.isRowVersion = false → p.valueGenerated ≠ .none →
    ∀ sql ∈ p.computedSql, sql = "" ∨ HasText sql

instance (p : Property) : Decidable p.GivesText :=
  decidable_of_iff ((∀ expression ∈ p.default, ¬ DefaultValue.IsEmptyPair expression) ∧
      (p.isRowVersion = false → p.valueGenerated ≠ .none →
        ∀ sql ∈ p.computedSql, sql = "" ∨ HasText sql))
    ⟨fun h => ⟨h.1, h.2⟩, fun h => ⟨h.1, h.2⟩⟩

theorem defaultValueSql_mem_directives :
    .defaultValueSql sql ∈ p.directives identifier ↔
      ∃ expression, p.default = some expression ∧ HasText expression ∧
        sql = DefaultValue.stripOuterParens expression := by
  simp [directives, mem_rowVersionDirectives, columnNameDirective, mem_columnTypeDirective,
    mem_ansiTextDirectives, mem_maxLengthDirective, mem_defaultValueDirective,
    mem_generationDirectives, mem_computedColumnDirective, nonBlank_eq_some_iff, HasText, and_assoc]

theorem computedColumnSql_mem_directives :
    .computedColumnSql sql ∈ p.directives identifier ↔
      p.isRowVersion = false ∧ p.valueGenerated ≠ .none ∧ p.computedSql = some sql ∧ sql ≠ "" := by
  simp [directives, mem_rowVersionDirectives, columnNameDirective, mem_columnTypeDirective,
    mem_ansiTextDirectives, mem_maxLengthDirective, mem_defaultValueDirective,
    mem_generationDirectives, mem_computedColumnDirective, nonEmpty_eq_some_iff]

theorem gives_iff :
    p.Gives sql ↔ ∃ d ∈ p.directives identifier, d.fragment? = some sql := by
  constructor
  · intro h
    cases h with
    | default hd ht => exact ⟨_, defaultValueSql_mem_directives.mpr ⟨_, hd, ht, rfl⟩, rfl⟩
    | computation hr hg hc hn =>
      exact ⟨_, computedColumnSql_mem_directives.mpr ⟨hr, hg, hc, hn⟩, rfl⟩
  · rintro ⟨d, hd, hs⟩
    cases d with
    | defaultValueSql sql' =>
      obtain rfl := Option.some.inj hs
      obtain ⟨expression, he, ht, rfl⟩ := defaultValueSql_mem_directives.mp hd
      exact .default he ht
    | computedColumnSql sql' =>
      obtain rfl := Option.some.inj hs
      obtain ⟨hr, hg, hc, hn⟩ := computedColumnSql_mem_directives.mp hd
      exact .computation hr hg hc hn
    | _ => cases hs

theorem givesText_iff : p.GivesText ↔ ∀ sql, p.Gives sql → HasText sql := by
  constructor
  · intro h sql hs
    cases hs with
    | default hd ht => exact (DefaultValue.hasText_stripOuterParens_iff ht).mpr (h.default _ hd)
    | computation hr hg hc hn => exact (h.computation hr hg _ hc).resolve_left hn
  · intro h
    refine ⟨fun expression hd he => ?_, fun hr hg sql hc => ?_⟩
    · have ht : HasText expression := he.hasText
      exact (DefaultValue.hasText_stripOuterParens_iff ht).mp (h _ (.default hd ht)) he
    · exact or_iff_not_imp_left.mpr fun hn => h sql (.computation hr hg hc hn)

end Property

namespace Emission

variable {em : Emission} {schema : Schema} {entity : Entity} {plan : MappingPlan} {sql : String}

theorem mem_fragments :
    sql ∈ plan.fragments ↔
      (∃ b ∈ plan.propertyBindings, ∃ d ∈ b.2, d.fragment? = some sql) ∨
        ∃ b ∈ plan.indexBindings, b.filter = some sql := by
  simp only [MappingPlan.fragments, MappingPlan.propertyBindings, MappingPlan.indexBindings,
    List.mem_flatMap, List.mem_filterMap]
  constructor
  · rintro ⟨s, hs, hm⟩
    cases s with
    | property name directives =>
      exact .inl ⟨(name, directives), ⟨_, hs, rfl⟩, List.mem_filterMap.mp hm⟩
    | index b => exact .inr ⟨b, ⟨_, hs, rfl⟩, Option.mem_toList.mp hm⟩
    | _ => cases hm
  · rintro (⟨b, ⟨s, hs, hb⟩, hd⟩ | ⟨b, ⟨s, hs, hb⟩, hf⟩)
    · refine ⟨s, hs, ?_⟩
      cases s with
      | property name directives =>
        obtain rfl := Option.some.inj hb
        exact List.mem_filterMap.mpr hd
      | _ => cases hb
    · refine ⟨s, hs, ?_⟩
      cases s with
      | index b =>
        obtain rfl := Option.some.inj hb
        exact Option.mem_toList.mpr hf
      | _ => cases hb

theorem exists_filter_iff (h : em.plan schema entity = .ok plan) :
    (∃ b ∈ plan.indexBindings, b.filter = some sql) ↔
      ∃ i ∈ entity.indexes, i.filter = some sql ∧ HasText sql := by
  have hb : ∀ {i : Index} {b : IndexBinding}, em.indexStatement entity i = .ok (.index b) →
      (b.filter = some sql ↔ i.filter = some sql ∧ HasText sql) := by
    intro i b hi
    obtain ⟨columns, -, he⟩ := indexStatement_eq_ok_iff.mp hi
    obtain rfl := Statement.index.inj he
    exact nonBlank_eq_some_iff
  have hf := indexBindings_of_plan h
  have hu : Relator.RightUnique fun (i : Index) (b : IndexBinding) =>
      em.indexStatement entity i = .ok (.index b) := fun i b b' hi hi' =>
    Statement.index.inj (Except.ok.inj (hi.symm.trans hi'))
  constructor
  · rintro ⟨b, hm, hs⟩
    obtain ⟨i, hi, he⟩ := (mem_iff_of_forall₂ hf hu).mp hm
    exact ⟨i, hi, (hb he).mp hs⟩
  · rintro ⟨i, hi, hs⟩
    obtain ⟨b, he⟩ := exists_of_mem_forall₂ hf hi
    exact ⟨b, (mem_iff_of_forall₂ hf hu).mpr ⟨i, hi, he⟩, (hb he).mpr hs⟩

theorem mem_fragments_of_plan (h : em.plan schema entity = .ok plan) :
    sql ∈ plan.fragments ↔ (∃ p ∈ entity.properties, p.Gives sql) ∨
      ∃ i ∈ entity.indexes, i.filter = some sql ∧ HasText sql := by
  rw [mem_fragments, exists_filter_iff h, propertyBindings_of_plan h]
  refine or_congr_left ?_
  constructor
  · rintro ⟨b, hb, hd⟩
    obtain ⟨p, hp, rfl⟩ := List.mem_map.mp (List.mem_filter.mp hb).1
    exact ⟨p, hp, Property.gives_iff.mpr hd⟩
  · rintro ⟨p, hp, hs⟩
    obtain ⟨d, hd, hs⟩ : ∃ d ∈ p.directives (em.identifier p), d.fragment? = some sql :=
      Property.gives_iff.mp hs
    refine ⟨_, List.mem_filter.mpr ⟨List.mem_map_of_mem hp, ?_⟩, d, hd, hs⟩
    simpa using List.ne_nil_of_mem hd

/-- Every filter of a plan has text in it. All SQL of the plan has exactly if no property has an
empty pair of parentheses for a default value, and none that is computed has blanks only for its
computation. -/
theorem fragments_hasText_iff (h : em.plan schema entity = .ok plan) :
    ((∀ sql ∈ plan.fragments, HasText sql) ↔ ∀ p ∈ entity.properties, p.GivesText) ∧
      ∀ b ∈ plan.indexBindings, ∀ filter, b.filter = some filter → HasText filter := by
  constructor
  · constructor
    · intro ht p hp
      refine Property.givesText_iff.mpr fun sql hs => ht sql ?_
      exact (mem_fragments_of_plan h).mpr (.inl ⟨p, hp, hs⟩)
    · intro hp sql hs
      rcases (mem_fragments_of_plan h).mp hs with ⟨p, hm, hg⟩ | ⟨i, -, -, ht⟩
      · exact Property.givesText_iff.mp (hp p hm) sql hg
      · exact ht
  · intro b hb filter hf
    obtain ⟨i, -, -, ht⟩ := (exists_filter_iff h).mp ⟨b, hb, hf⟩
    exact ht

end Emission

namespace Sample

def pricedOrders (rebate total : String) : Entity :=
  { orders with
    properties := orders.properties ++ [
      { propertyName := "Rebate", columnName := "Rebate", default := some rebate },
      { propertyName := "Total", columnName := "Total", computedSql := some total,
        valueGenerated := .onAddOrUpdate }]
    indexes := [{ name := "IX_Open", columns := ["id"], filter := some "[Total] > 0" }] }

def pricedOrdersPlan (rebate total : String) : MappingPlan :=
  { ordersPlan with
    statements := [
      .table "Orders" none,
      .key ["Id"],
      .property "Id" [.columnName "id"],
      .property "CustomerEntity" [.columnName "customer_id"],
      .property "Rebate" [.defaultValueSql rebate],
      .property "Total" [.computedColumnSql total, .valueGeneratedOnAddOrUpdate],
      .relationship {
        navigation := "Customer"
        cardinality := .many
        principalNavigation := "Orders"
        foreignKey := ["Customer"] },
      .index { columns := ["Id"], name := some "IX_Open", filter := some "[Total] > 0" }]
    constants := some {
      name := "Orders"
      columns := [("Id", "id"), ("CustomerEntity", "customer_id"), ("OrderDate", "OrderDate"),
        ("Rebate", "Rebate"), ("Total", "Total")] } }

end Sample

namespace Emission

open Sample in
theorem fragments_pricedOrders :
    emission.plan shop (pricedOrders "((0))" "price - rebate") =
        .ok (pricedOrdersPlan "(0)" "price - rebate") ∧
      ∀ sql ∈ (pricedOrdersPlan "(0)" "price - rebate").fragments, HasText sql := by
  have h : emission.plan shop (pricedOrders "((0))" "price - rebate") =
      .ok (pricedOrdersPlan "(0)" "price - rebate") := by decide +kernel
  have ht : ∀ p ∈ (pricedOrders "((0))" "price - rebate").properties, p.GivesText := by
    decide +kernel
  exact ⟨h, (fragments_hasText_iff h).1.mpr ht⟩

open Sample in
/-- A default value of which nothing is left, and a computation that is nothing but a blank. -/
theorem fragments_blank :
    emission.plan shop (pricedOrders "( )" " ") = .ok (pricedOrdersPlan "" " ") ∧
      (pricedOrdersPlan "" " ").fragments = ["", " ", "[Total] > 0"] ∧
      ¬ ∀ sql ∈ (pricedOrdersPlan "" " ").fragments, HasText sql := by
  decide +kernel

end Emission

end EntityMapping
