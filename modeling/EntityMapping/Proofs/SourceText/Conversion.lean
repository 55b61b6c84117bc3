import EntityMapping.Proofs.Plan.Directives
import EntityMapping.Proofs.Plan.RowVersions
import EntityMapping.Proofs.Plan.Statements
import EntityMapping.Proofs.SourceText.NewLines
import EntityMapping.Proofs.SourceText.Readback
import EntityMapping.Proofs.SourceText.Wording

/-! # The import for row versions

A row version is converted between a number and bytes, by a class of a namespace that nothing else
needs. A plan tells from its statements whether it has a row version, and its file imports the
namespace then. A name that breaks the line it is written in can bring the import without any row
version, so that the converse holds of names without line feeds only.
-/

namespace EntityMapping

/-- The plan converts the property of that name between a number and bytes. -/
def MappingPlan.Converts (plan : MappingPlan) (name : String) : Prop :=
  ∃ directives, .property name directives ∈ plan.statements ∧
    .numberToBytesConversion ∈ directives

theorem MappingPlan.hasRowVersion_iff {plan : MappingPlan} :
    plan.hasRowVersion = true ↔ ∃ name, plan.Converts name := by
  rw [hasRowVersion, List.any_eq_true]
  constructor
  · rintro ⟨s, hs, hc⟩
    cases s with
    | property name directives => exact ⟨name, directives, hs, by simpa [Statement.convertsToBytes] using hc⟩
    | _ => cases hc
  · rintro ⟨name, directives, hs, hd⟩
    exact ⟨_, hs, by simpa [Statement.convertsToBytes] using hd⟩

theorem Property.numberToBytesConversion_mem_directives {p : Property} {identifier : String} :
    .numberToBytesConversion ∈ p.directives identifier ↔ p.isRowVersion = true := by
  simp [directives, mem_rowVersionDirectives, columnNameDirective, mem_columnTypeDirective,
    mem_ansiTextDirectives, mem_maxLengthDirective, mem_defaultValueDirective,
    mem_generationDirectives, mem_computedColumnDirective]

theorem Emission.hasRowVersion_of_plan {em : Emission} {schema : Schema} {entity : Entity}
    {plan : MappingPlan} (h : em.plan schema entity = .ok plan) :
    plan.hasRowVersion = true ↔ ∃ p ∈ entity.properties, p.isRowVersion = true := by
  have hb : ∀ name directives, .property name directives ∈ plan.statements ↔
      (name, directives) ∈ plan.propertyBindings := by
    intro name directives
    rw [MappingPlan.propertyBindings, List.mem_filterMap]
    constructor
    · exact fun hs => ⟨_, hs, rfl⟩
    · rintro ⟨s, hs, he⟩
      cases s with
      | property =>
        cases he
        exact hs
      | _ => cases he
  simp only [MappingPlan.hasRowVersion_iff, MappingPlan.Converts, hb, propertyBindings_of_plan h]
  constructor
  · rintro ⟨name, directives, hm, hd⟩
    obtain ⟨p, hp, he⟩ := List.mem_map.mp (List.mem_filter.mp hm).1
    cases he
    exact ⟨p, hp, Property.numberToBytesConversion_mem_directives.mp hd⟩
  · rintro ⟨p, hp, hr⟩
    have hd : .numberToBytesConversion ∈ p.directives (em.identifier p) :=
      Property.numberToBytesConversion_mem_directives.mpr hr
    refine ⟨em.identifier p, _, List.mem_filter.mpr ⟨List.mem_map_of_mem hp, ?_⟩, hd⟩
    simpa using List.ne_nil_of_mem hd

namespace SourceText

def conversionCall : String := directiveCall .numberToBytesConversion

def conversionImport : String := Usings.directive conversionNamespace

/-- A text has a row that begins, apart from blanks, with the call that converts a property. -/
def CallsConversion (text : String) : Prop :=
  ∃ row ∈ rows text, conversionCall.toList <+: unindented row

section Rows

variable {l : Line} {ls : List Line}

theorem render_mem_rows (hl : l ∈ ls) (hu : Unbroken l.text) : l.render ∈ rows (renderLines ls) := by
  rw [rows, toList_renderLines]
  induction hl with
  | head ls =>
    rw [splitOnP_chars_cons hu]
    exact List.mem_map.mpr ⟨_, List.mem_cons_self, String.ofList_toList⟩
  | tail m _ ih =>
    -- However many rows the lines before have, the line begins after a line feed.
    rw [chars_cons, Line.chars, List.append_assoc, List.singleton_append,
      List.splitOnP_append_cons _ _ rfl, List.map_append]
    exact List.mem_append_right _ ih

end Rows

section Calls

variable {style : Style} {plan : MappingPlan} {call head entityClass text : String}
  {ls : List Line} {calls : List String} {s : Statement} {ss : List Statement}

theorem mem_texts_callLines (h : call ∈ calls) :
    call ∈ texts (callLines calls) ∨ call ++ ";" ∈ texts (callLines calls) := by
  induction calls with
  | nil => cases h
  | cons first calls ih =>
    cases calls with
    | nil =>
      obtain rfl := List.mem_singleton.mp h
      exact .inr List.mem_cons_self
    | cons next calls =>
      rcases List.mem_cons.mp h with rfl | h
      · exact .inl List.mem_cons_self
      · exact (ih h).imp (List.mem_cons_of_mem _) (List.mem_cons_of_mem _)

theorem mem_texts_chain (h : call ∈ calls) :
    call ∈ texts (chain head calls) ∨ call ++ ";" ∈ texts (chain head calls) := by
  cases calls with
  | nil => cases h
  | cons first calls =>
    rw [chain, texts_cons, texts_indent]
    exact (mem_texts_callLines h).imp (List.mem_cons_of_mem _) (List.mem_cons_of_mem _)
    exact List.cons_ne_nil _ _

theorem mem_texts_block (ht : text ∈ texts ls) : text ∈ texts (line head :: braced ls) := by
  simp [braced, ht]

theorem mem_texts_bodyLines (hs : s ∈ ss) (ht : text ∈ texts (statementLines entityClass s))
    (previous : Option Section) : text ∈ texts (bodyLines entityClass previous ss) := by
  induction ss generalizing previous with
  | nil => cases hs
  | cons first ss ih =>
    rw [bodyLines_cons, texts_append, texts_append, List.mem_append, List.mem_append]
    rcases List.mem_cons.mp hs with rfl | hs
    · exact .inr (.inl ht)
    · exact .inr (.inr (ih hs _))

theorem mem_texts_fileLines
    (ht : text ∈ texts (bodyLines plan.entityClass none plan.statements)) :
    text ∈ texts (fileLines style plan) := by
  have hconfigure : text ∈ texts (configureLines style plan) := by
    rw [configureLines, texts_append]
    exact List.mem_append_right _ (mem_texts_block ht)
  have hclass : text ∈ texts (classLines style plan) := by
    rw [classLines_eq, texts_append]
    refine List.mem_append_right _ (mem_texts_block ?_)
    rw [texts_append]
    exact List.mem_append_left _ hconfigure
  have hwithin : text ∈ texts (withinNamespace plan (classLines style plan)) := by
    unfold withinNamespace
    split
    · exact hclass
    · exact mem_texts_block hclass
  unfold fileLines
  split
  · exact hclass
  · rw [texts_append]
    exact List.mem_append_right _ (List.mem_cons_of_mem _ hwithin)

theorem callsConversion_of_converts {name : String} (h : plan.Converts name) :
    CallsConversion (render style plan) := by
  obtain ⟨directives, hs, hd⟩ := h
  have hc : conversionCall ∈ laterCalls plan.entityClass (.property name directives) :=
    List.mem_map_of_mem hd
  have hline : ∀ text : String, text = conversionCall ∨ text = conversionCall ++ ";" →
      text ∈ texts (statementLines plan.entityClass (.property name directives)) →
      CallsConversion (render style plan) := by
    intro text he ht
    obtain ⟨l, hl, rfl⟩ := List.mem_map.mp (mem_texts_fileLines (mem_texts_bodyLines hs ht none))
    have hu : Unbroken l.text := by
      rcases he with he | he <;> rw [he] <;> unfold Unbroken <;> decide
    refine ⟨l.render, render_mem_rows hl hu, ?_⟩
    rw [unindented_render]
    rcases he with he | he <;> rw [he] <;> decide
  rw [statementLines_eq_chain] at hline
  rcases mem_texts_chain hc with ht | ht
  · exact hline _ (.inl rfl) ht
  · exact hline _ (.inr rfl) ht

end Calls

section Imports

variable {style : Style} {plan : MappingPlan} {text : String}

theorem conversionNamespace_mem_ordered (h : plan.hasRowVersion = true) :
    conversionNamespace ∈ (Usings.ofList (requiredNamespaces plan)).ordered := by
  rw [Usings.mem_ordered, Usings.mem_ofList, mem_requiredNamespaces]
  exact ⟨by decide, .inr ⟨rfl, h⟩⟩

theorem conversionImport_mem_rows (h : plan.hasRowVersion = true) :
    conversionImport ∈ rows (render { style with singleFile := false } plan) := by
  have hu : Unbroken conversionNamespace := by
    unfold Unbroken
    decide
  have hl : line conversionImport ∈ usingLines plan := by
    rw [usingLines_eq]
    refine List.mem_flatMap.mpr ⟨_, conversionNamespace_mem_ordered h, ?_⟩
    rw [Usings.directiveLines_of_unbroken hu]
    exact List.mem_singleton_self _
  have hf : line conversionImport ∈ fileLines { style with singleFile := false } plan :=
    List.mem_append_left _ hl
  have hi : Unbroken conversionImport := by
    unfold Unbroken
    decide
  have hr : (line conversionImport).render ∈ rows (render { style with singleFile := false } plan) :=
    render_mem_rows hf hi
  rwa [render_line] at hr

theorem Usings.directive_injective : Function.Injective Usings.directive := by
  intro a b h
  have h : (directive a).toList = (directive b).toList := congrArg String.toList h
  rw [toList_directive, toList_directive] at h
  exact String.toList_inj.mp (List.append_cancel_left (List.append_cancel_right h))

/-- Of the lines of a file, only the call of a directive begins like the call that converts. -/
theorem Worded.converts (h : Worded style plan text) (hp : conversionCall.toList <+: text.toList) :
    ∃ name, plan.Converts name := by
  rcases h.cases_of_start (by decide) (by decide) hp with
    ⟨name, -, rfl⟩ | ⟨name, directives, d, hs, hd, hc⟩
  · have hu : "using ".toList <+: (Usings.directive name).toList :=
      prefix_toList_append (prefix_toList_append List.prefix_rfl _) _
    have hn : Diverge conversionCall.toList "using ".toList := by decide
    exact (hn.not_starts hu hp).elim
  · obtain ⟨x, hx⟩ := hp
    obtain ⟨y, hy⟩ := hc
    obtain ⟨rfl, -⟩ := legible_directiveCall trivial trivial (hx.trans hy.symm)
    exact ⟨name, directives, hs, hd⟩

/-- Of the lines of a file, only a using directive reads like the import. -/
theorem Worded.imports (h : Worded style plan conversionImport) :
    conversionNamespace ∈ (Usings.ofList (requiredNamespaces plan)).ordered := by
  rcases h.cases_of_start (by decide) (by decide) List.prefix_rfl with
    ⟨name, hn, he⟩ | ⟨name, directives, d, -, -, hc⟩
  · obtain rfl : conversionNamespace = name := Usings.directive_injective he
    exact hn
  · obtain ⟨s, hs⟩ := exists_directiveCall d
    rw [hs] at hc
    simp [conversionImport, Usings.directive] at hc

theorem callsConversion_iff (h : ∀ name ∈ plan.names, Unbroken name) :
    CallsConversion (render style plan) ↔ ∃ name, plan.Converts name := by
  constructor
  · rintro ⟨row, hr, hp⟩
    obtain ⟨text, hw, hu⟩ := exists_worded h hr
    exact hw.converts (hu ▸ hp)
  · rintro ⟨name, hc⟩
    exact callsConversion_of_converts hc

theorem not_mem_requiredNamespaces (he : plan.entityNamespace ≠ conversionNamespace) :
    conversionNamespace ∉ requiredNamespaces { plan with statements := [] } := by
  have hr : MappingPlan.hasRowVersion { plan with statements := [] } = false := rfl
  simp only [requiredNamespaces, hr, Bool.false_eq_true, if_false, List.append_nil,
    List.mem_append, not_or]
  refine ⟨⟨by decide, by decide⟩, ?_⟩
  split_ifs
  · exact List.not_mem_nil
  · exact fun h => he (List.mem_singleton.mp h).symm

theorem conversionNamespace_mem_ordered_iff (he : plan.entityNamespace ≠ conversionNamespace) :
    conversionNamespace ∈ (Usings.ofList (requiredNamespaces plan)).ordered ↔
      plan.hasRowVersion = true := by
  refine ⟨fun h => ?_, conversionNamespace_mem_ordered⟩
  rw [Usings.mem_ordered, Usings.mem_ofList, mem_requiredNamespaces] at h
  exact (h.2.resolve_left (not_mem_requiredNamespaces he)).2

theorem conversionImport_mem_rows_iff (he : plan.entityNamespace ≠ conversionNamespace)
    (h : ∀ name ∈ plan.names, Unbroken name) :
    conversionImport ∈ rows (render { style with singleFile := false } plan) ↔
      ∃ name, plan.Converts name := by
  rw [← MappingPlan.hasRowVersion_iff]
  refine ⟨fun hr => ?_, conversionImport_mem_rows⟩
  obtain ⟨text, hw, hu⟩ := exists_worded h hr
  have hi : unindented conversionImport = conversionImport.toList :=
    unindented_of_head (by simp [conversionImport, Usings.directive])
  obtain rfl : conversionImport = text := String.toList_inj.mp (hi.symm.trans hu)
  exact (conversionNamespace_mem_ordered_iff he).mp hw.imports

/-- The plan of an entity has a row version exactly if a property of the entity is one. A file of its
own imports the namespace of the converter if a property is converted in it. Unless the names in the
plan break lines or that namespace is the one of the entity, it imports the namespace only then. -/
theorem render_conversion (style : Style) (plan : MappingPlan) :
    (∀ em schema entity, Emission.plan em schema entity = .ok plan →
      (plan.hasRowVersion = true ↔ ∃ p ∈ entity.properties, p.isRowVersion = true)) ∧
    ((∃ name, plan.Converts name) →
      CallsConversion (render { style with singleFile := false } plan) ∧
        conversionImport ∈ rows (render { style with singleFile := false } plan)) ∧
    (plan.entityNamespace ≠ conversionNamespace → (∀ name ∈ plan.names, Unbroken name) →
      (CallsConversion (render { style with singleFile := false } plan) ↔
        ∃ name, plan.Converts name) ∧
      (conversionImport ∈ rows (render { style with singleFile := false } plan) ↔
        ∃ name, plan.Converts name)) := by
  refine ⟨fun em schema entity h => Emission.hasRowVersion_of_plan h, ?_, fun he h => ?_⟩
  · rintro ⟨name, hc⟩
    exact ⟨callsConversion_of_converts hc,
      conversionImport_mem_rows (MappingPlan.hasRowVersion_iff.mpr ⟨name, hc⟩)⟩
  · exact ⟨callsConversion_iff h, conversionImport_mem_rows_iff he h⟩

end Imports

end SourceText

namespace Sample

def changingOrders : Entity :=
  { orders with
    entityNamespace := "Shop"
    mappingNamespace := "Shop.Mapping"
    properties := orders.properties ++ [changed] }

def changingOrdersPlan : MappingPlan :=
  { shopOrdersPlan with
    statements := [
      .table "Orders" none,
      .key ["Id"],
      .property "Id" [.columnName "id"],
      .property "CustomerEntity" [.columnName "customer_id"],
      .property "Changed" (rowVersionGroup ++ [.columnType "datetime"]),
      .relationship {
        navigation := "Customer"
        cardinality := .many
        principalNavigation := "Orders"
        foreignKey := ["Customer"] }]
    constants := some {
      name := "Orders"
      columns := [("Id", "id"), ("CustomerEntity", "customer_id"), ("OrderDate", "OrderDate"),
        ("Changed", "Changed")] } }

/-- Orders in a namespace that ends its using directive and begins another one. -/
def importingOrdersPlan : MappingPlan :=
  { shopOrdersPlan with
    entityNamespace := "Shop;\nusing Microsoft.EntityFrameworkCore.Storage.ValueConversion"
    statements := [.table "Orders" none]
    constants := none }

end Sample

namespace SourceText

open Sample in
theorem render_conversion_changingOrders :
    emission.plan shop changingOrders = .ok changingOrdersPlan ∧
      changingOrdersPlan.hasRowVersion = true ∧
      changingOrdersPlan.entityNamespace ≠ conversionNamespace ∧
      (∀ name ∈ changingOrdersPlan.names, Unbroken name) ∧
      CallsConversion (render {} changingOrdersPlan) ∧
      conversionImport ∈ rows (render {} changingOrdersPlan) ∧
      conversionImport ∉ rows (render {} shopOrdersPlan) := by
  have hplan : emission.plan shop changingOrders = .ok changingOrdersPlan := by decide +kernel
  have hn : ∀ name ∈ changingOrdersPlan.names, Unbroken name := by
    unfold Unbroken
    decide +kernel
  have hs : ∀ name ∈ shopOrdersPlan.names, Unbroken name := by
    unfold Unbroken
    decide +kernel
  obtain ⟨hrow, hcalls, -⟩ := render_conversion {} changingOrdersPlan
  obtain ⟨-, -, honly⟩ := render_conversion {} shopOrdersPlan
  have hr : changingOrdersPlan.hasRowVersion = true :=
    (hrow _ shop changingOrders hplan).mpr ⟨changed, by simp [changingOrders], rfl⟩
  have hnone : ¬ ∃ name, shopOrdersPlan.Converts name := by
    rw [← MappingPlan.hasRowVersion_iff]
    decide
  obtain ⟨hcall, himport⟩ := hcalls (MappingPlan.hasRowVersion_iff.mp hr)
  exact ⟨hplan, hr, by decide, hn, hcall, himport, mt (honly (by decide) hs).2.mp hnone⟩

open Sample in
/-- An import that comes with the namespace of an entity, where nothing is converted. -/
theorem conversionImport_mem_importingOrders :
    importingOrdersPlan.entityNamespace ≠ conversionNamespace ∧
      conversionImport ∈ rows (render {} importingOrdersPlan) ∧
      (¬ ∃ name, importingOrdersPlan.Converts name) ∧
      ¬ CallsConversion (render {} importingOrdersPlan) := by
  have husings : ∀ l ∈ usingLines importingOrdersPlan,
      Unbroken l.text ∧ ¬ conversionCall.toList <+: unindented l.text := by
    unfold Unbroken
    rw [usingLines_eq, List.forall_mem_flatMap]
    exact forall_mem_ordered (by decide +kernel) (by decide +kernel)
  have hclass : ∀ l ∈ blankLine :: withinNamespace importingOrdersPlan
      (classLines {} importingOrdersPlan),
      Unbroken l.text ∧ ¬ conversionCall.toList <+: unindented l.text := by
    unfold Unbroken
    decide +kernel
  have hlines : ∀ l ∈ fileLines {} importingOrdersPlan,
      Unbroken l.text ∧ ¬ conversionCall.toList <+: unindented l.text :=
    List.forall_mem_append.mpr ⟨husings, hclass⟩
  have himport : line conversionImport ∈ usingLines importingOrdersPlan := by
    rw [usingLines_eq]
    refine List.mem_flatMap.mpr ⟨importingOrdersPlan.entityNamespace, ?_, by decide +kernel⟩
    rw [Usings.mem_ordered, Usings.mem_ofList]
    decide +kernel
  have hnone : ¬ ∃ name, importingOrdersPlan.Converts name := by
    rw [← MappingPlan.hasRowVersion_iff]
    decide
  refine ⟨by decide, ?_, hnone, ?_⟩
  · have hr : (line conversionImport).render ∈ rows (render {} importingOrdersPlan) :=
      render_mem_rows (List.mem_append_left _ himport) (husings _ himport).1
    rwa [render_line] at hr
  · rintro ⟨row, hr, hp⟩
    rw [render, rows_renderLines fun l hl => (hlines l hl).1] at hr
    rcases List.mem_append.mp hr with hr | hr
    · obtain ⟨l, hl, rfl⟩ := List.mem_map.mp hr
      exact (hlines l hl).2 (unindented_render l ▸ hp)
    · obtain rfl := List.mem_singleton.mp hr
      exact absurd hp (by decide)

end SourceText

end EntityMapping
