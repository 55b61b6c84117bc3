import EntityMapping.Proofs.Plan.Acceptance
import EntityMapping.Proofs.SourceText.Legible
import EntityMapping.Proofs.SourceText.Usings

/-! # A class in a file of its own

Nothing that is written into a class breaks its lines, apart from the names in the plan. Where those
have no line feed either, a file of its own holds the class as it stands in a shared file, after
the using directives and within its namespace.
-/

namespace EntityMapping

def Statement.identifiers : Statement → List String
  | .table .. | .view .. | .noKey => []
  | .key columns => columns
  | .property name _ => [name]
  | .relationship r => r.navigation :: r.principalNavigation :: r.foreignKey
  | .index i => i.columns
  | .alternateKey columns _ => columns

namespace MappingPlan

def identifiers (plan : MappingPlan) : List String :=
  plan.statements.flatMap Statement.identifiers ++
    plan.constants.toList.flatMap fun constants => constants.columns.map Prod.fst

/-- All that a mapping class writes as it is given, not within a string literal. -/
def names (plan : MappingPlan) : List String :=
  [plan.entityClass, plan.entityNamespace, plan.mappingClass, plan.mappingNamespace] ++
    plan.identifiers

end MappingPlan

namespace SourceText

open Decimal (IsNumeric isNumeric_of_mem_repr)

section Texts

variable {c : Char} {separator : List Char} {texts : List (List Char)} {names : List String}

theorem not_mem_escapeChar (c : Char) : '\n' ∉ escapeChar c := by
  unfold escapeChar
  split <;> simp_all [eq_comm]

@[simp] theorem not_mem_literal (s : String) : '\n' ∉ (literal s).toList := by
  simp [literal, not_mem_escapeChar]

@[simp] theorem not_mem_repr (i : Int) : '\n' ∉ i.repr.toList := by
  intro hm
  have hn : IsNumeric '\n' := isNumeric_of_mem_repr hm
  simp [IsNumeric] at hn

theorem mem_of_mem_intercalate (h : c ∈ separator.intercalate texts) :
    c ∈ separator ∨ ∃ text ∈ texts, c ∈ text := by
  induction texts with
  | nil => simp at h
  | cons text texts ih =>
    by_cases hn : texts = []
    · subst hn
      exact .inr ⟨text, List.mem_cons_self, by simpa using h⟩
    · rw [List.intercalate_cons_of_ne_nil hn, List.mem_append, List.mem_append] at h
      rcases h with (h | h) | h
      · exact .inr ⟨text, List.mem_cons_self, h⟩
      · exact .inl h
      · exact (ih h).imp_right fun ⟨t, ht, hc⟩ => ⟨t, List.mem_cons_of_mem _ ht, hc⟩

theorem not_mem_entitySelector (h : ∀ name ∈ names, Unbroken name) :
    '\n' ∉ (entitySelector names).toList := by
  have hi : '\n' ∉ (", ".intercalate (names.map (member "e"))).toList := by
    rw [String.toList_intercalate]
    intro hm
    rcases mem_of_mem_intercalate hm with hm | ⟨text, ht, hm⟩
    · cases hm with
      | tail _ hm => cases hm with | tail _ hm => cases hm
    · obtain ⟨name, hn, rfl⟩ : ∃ name ∈ names, (member "e" name).toList = text := by
        simpa using ht
      exact h name hn (by simpa [member] using hm)
  unfold entitySelector memberSelector
  split
  next name => simpa [member, Unbroken] using h
  next => simpa using hi

theorem unbroken_directiveCall (d : Directive) : Unbroken (directiveCall d) := by
  cases d with
  | required value | unicode value => cases value <;> unfold directiveCall <;> simp [Unbroken]
  | _ => unfold directiveCall; simp [Unbroken]

end Texts

section Lines

variable {l : Line} {as bs : List Line} {head : String} {calls comments : List String}
  {style : Style} {plan : MappingPlan}

/-- Lines without line feeds in them. -/
def OneLine (ls : List Line) : Prop := ∀ l ∈ ls, Unbroken l.text

@[simp] theorem oneLine_nil : OneLine [] := nofun

@[simp] theorem oneLine_cons : OneLine (l :: as) ↔ Unbroken l.text ∧ OneLine as :=
  List.forall_mem_cons

@[simp] theorem oneLine_append : OneLine (as ++ bs) ↔ OneLine as ∧ OneLine bs :=
  List.forall_mem_append

theorem oneLine_flatMap {α : Type} {f : α → List Line} {xs : List α} :
    OneLine (xs.flatMap f) ↔ ∀ x ∈ xs, OneLine (f x) :=
  List.forall_mem_flatMap

@[simp] theorem oneLine_braced : OneLine (braced as) ↔ OneLine as := by
  rw [OneLine, forall_mem_braced]
  simp [OneLine, Unbroken]

theorem unbroken_blankLine : Unbroken blankLine.text := by
  simp [blankLine, line, Unbroken]

theorem oneLine_chain (hh : Unbroken head) (h : ∀ call ∈ calls, Unbroken call) :
    OneLine (chain head calls) := by
  have hend : ∀ text, Unbroken text → Unbroken text ∧ Unbroken (text ++ ";") :=
    fun text ht => ⟨ht, by simpa [Unbroken] using ht⟩
  exact forall_mem_chain (hend head hh) fun call hc => hend call (h call hc)

theorem oneLine_comments (h : ∀ text ∈ comments, Unbroken text) :
    OneLine (style.comments comments) := by
  unfold Style.comments
  split
  · simpa [OneLine, line, Unbroken] using h
  · exact oneLine_nil

theorem unbroken_relationshipCalls {entityClass : String} {r : RelationshipBinding}
    (hc : Unbroken entityClass) (hp : Unbroken r.principalNavigation)
    (hk : ∀ name ∈ r.foreignKey, Unbroken name) :
    ∀ call ∈ relationshipCalls entityClass r, Unbroken call := by
  have hs := not_mem_entitySelector hk
  have hi : '\n' ∉ (inverseCall r.cardinality).toList := by
    cases r.cardinality <;> simp [inverseCall]
  simp only [Unbroken] at hc hp
  obtain ⟨_, _, _, _, oneToOne, constraintName⟩ := r
  cases oneToOne <;> cases constraintName <;>
    simp [relationshipCalls, Unbroken, hi, hc, hp, hs]

theorem unbroken_indexCalls (i : IndexBinding) : ∀ call ∈ indexCalls i, Unbroken call := by
  obtain ⟨_, name, filter, unique⟩ := i
  cases name <;> cases filter <;> cases unique <;> simp [indexCalls, Unbroken]

theorem oneLine_statementLines {entityClass : String} {s : Statement}
    (hc : Unbroken entityClass) (h : ∀ name ∈ s.identifiers, Unbroken name) :
    OneLine (statementLines entityClass s) := by
  cases s with
  | table name schema | view name schema =>
    cases schema <;> simp [statementLines, tableArguments, line, Unbroken]
  | noKey => simp [statementLines, line, Unbroken]
  | key columns =>
    have hs : '\n' ∉ (entitySelector columns).toList := not_mem_entitySelector h
    simp [statementLines, line, Unbroken, hs]
  | property name directives =>
    have hn : Unbroken name := h name List.mem_cons_self
    refine oneLine_chain ?_ ?_
    · simpa [Unbroken] using hn
    · simpa using fun d _ => unbroken_directiveCall d
  | relationship r =>
    obtain ⟨hn, hp, hk⟩ : Unbroken r.navigation ∧ Unbroken r.principalNavigation ∧
        ∀ name ∈ r.foreignKey, Unbroken name := by
      simpa [Statement.identifiers] using h
    refine oneLine_chain ?_ (unbroken_relationshipCalls hc hp hk)
    simpa [Unbroken] using hn
  | index i =>
    have hs : '\n' ∉ (entitySelector i.columns).toList := not_mem_entitySelector h
    refine oneLine_chain ?_ (unbroken_indexCalls i)
    simpa [Unbroken] using hs
  | alternateKey columns name =>
    have hs : '\n' ∉ (entitySelector columns).toList := not_mem_entitySelector h
    change OneLine (chain ("builder.HasAlternateKey(" ++ entitySelector columns ++ ")")
      [".HasName(" ++ literal name ++ ")"])
    exact oneLine_chain (by simpa [Unbroken] using hs) (by simp [Unbroken])

theorem oneLine_bodyLines {entityClass : String} {previous : Option Section}
    {statements : List Statement} (hc : Unbroken entityClass)
    (h : ∀ s ∈ statements, ∀ name ∈ s.identifiers, Unbroken name) :
    OneLine (bodyLines entityClass previous statements) := by
  induction statements generalizing previous with
  | nil => exact oneLine_nil
  | cons s statements ih =>
    obtain ⟨hs, hss⟩ := List.forall_mem_cons.mp h
    have ht : ∀ g : Section, Unbroken (line ("// " ++ g.title)).text := by
      intro g
      cases g <;> simp [Section.title, line, Unbroken]
    unfold bodyLines
    simp only [oneLine_append]
    refine ⟨⟨⟨?_, ?_⟩, oneLine_statementLines hc hs⟩, ih hss⟩
    · split <;> simp [unbroken_blankLine]
    · split <;> simp [ht]

theorem unbroken_qualifiedEntity (h : ∀ name ∈ plan.names, Unbroken name) :
    '\n' ∉ (qualifiedEntity plan).toList := by
  have hc : '\n' ∉ plan.entityClass.toList := h _ (by simp [MappingPlan.names])
  have hn : '\n' ∉ plan.entityNamespace.toList := h _ (by simp [MappingPlan.names])
  unfold qualifiedEntity
  split <;> simp [hc, hn]

theorem oneLine_configureLines (h : ∀ name ∈ plan.names, Unbroken name) :
    OneLine (configureLines style plan) := by
  have hq := unbroken_qualifiedEntity h
  have hc : Unbroken plan.entityClass := h _ (by simp [MappingPlan.names])
  have hb : OneLine (bodyLines plan.entityClass none plan.statements) := by
    refine oneLine_bodyLines hc fun s hs name hn => h name ?_
    simp only [MappingPlan.names, MappingPlan.identifiers, List.mem_append, List.mem_flatMap]
    exact .inr (.inl ⟨s, hs, hn⟩)
  have hd : OneLine (style.comments
      (summary ("Configures the entity of type " ++ seeAlso (qualifiedEntity plan)) ++
        ["<param name=\"builder\">The builder to be used to configure the entity type.</param>"])) :=
    oneLine_comments (by simp [summary, seeAlso, Unbroken, hq])
  unfold configureLines
  refine oneLine_append.mpr ⟨hd, oneLine_cons.mpr ⟨?_, oneLine_braced.mpr hb⟩⟩
  simpa [line, Unbroken] using hc

theorem oneLine_constantsLines {constants : TableConstants}
    (h : ∀ name ∈ plan.names, Unbroken name)
    (hi : ∀ column ∈ constants.columns, Unbroken column.1) :
    OneLine (constantsLines style plan constants) := by
  have hq := unbroken_qualifiedEntity h
  have hd : ∀ text : String, '\n' ∉ text.toList → OneLine (style.comments (summaryLine text)) :=
    fun text ht => oneLine_comments (by simpa [summaryLine, Unbroken] using ht)
  have hcol : ∀ column ∈ constants.columns, OneLine (columnLines style plan column) := by
    intro column hm
    have hc : '\n' ∉ column.1.toList := hi column hm
    refine oneLine_append.mpr ⟨hd _ (by simp [seeAlso, hq, hc]), ?_⟩
    simp [stringConstant, line, Unbroken, hc]
  have hcols : OneLine (constants.columns.flatMap (columnLines style plan)) :=
    oneLine_flatMap.mpr hcol
  unfold constantsLines tableStruct columnsStruct
  cases constants.schema <;>
    simp [line, blankLine, stringConstant, Unbroken, hcols, hd, seeAlso, hq]

theorem oneLine_classLines (h : ∀ name ∈ plan.names, Unbroken name) :
    OneLine (classLines style plan) := by
  have hq := unbroken_qualifiedEntity h
  have hc : '\n' ∉ plan.entityClass.toList := h _ (by simp [MappingPlan.names])
  have hm : '\n' ∉ plan.mappingClass.toList := h _ (by simp [MappingPlan.names])
  have hd : OneLine (style.comments (summary
      ("Allows configuration for an entity type " ++ seeAlso (qualifiedEntity plan)))) :=
    oneLine_comments (by simp [summary, seeAlso, Unbroken, hq])
  unfold classLines
  refine oneLine_append.mpr ⟨hd, oneLine_cons.mpr ⟨?_, oneLine_braced.mpr ?_⟩⟩
  · simp [line, Unbroken, hc, hm]
  · refine oneLine_append.mpr ⟨oneLine_configureLines h, ?_⟩
    cases he : plan.constants with
    | none => exact oneLine_nil
    | some constants =>
      refine oneLine_cons.mpr ⟨unbroken_blankLine, oneLine_constantsLines h fun column hm => ?_⟩
      refine h column.1 ?_
      simp only [MappingPlan.names, MappingPlan.identifiers, he, Option.toList_some,
        List.flatMap_singleton, List.mem_append]
      exact .inr (.inr (List.mem_map_of_mem hm))

theorem oneLine_usingLines (h : Unbroken plan.entityNamespace) : OneLine (usingLines plan) := by
  have hl : ∀ name ∈ libraryNamespaces, Unbroken name := by simp [libraryNamespaces, Unbroken]
  rw [usingLines_of_unbroken h, OneLine, List.forall_mem_map]
  intro name hm
  have hn : '\n' ∉ name.toList := forall_mem_ordered hl h name hm
  simp [line, Usings.directive, Unbroken, hn]

theorem oneLine_fileLines (h : ∀ name ∈ plan.names, Unbroken name) :
    OneLine (fileLines style plan) := by
  have hu : OneLine (usingLines plan) := oneLine_usingLines (h _ (by simp [MappingPlan.names]))
  have hm : '\n' ∉ plan.mappingNamespace.toList := h _ (by simp [MappingPlan.names])
  have hc : OneLine (classLines style plan) := oneLine_classLines h
  have hw : OneLine (withinNamespace plan (classLines style plan)) := by
    unfold withinNamespace
    split
    · exact hc
    · exact oneLine_cons.mpr ⟨by simp [line, Unbroken, hm], oneLine_braced.mpr hc⟩
  unfold fileLines
  split
  · exact hc
  · exact oneLine_append.mpr ⟨hu, oneLine_cons.mpr ⟨unbroken_blankLine, hw⟩⟩

end Lines

/-- A file of its own holds the using directives, an empty line and the class as it stands in a
shared file, indented within the namespace of the class if it has one. -/
theorem render_ownFile (style : Style) (plan : MappingPlan)
    (h : ∀ name ∈ plan.names, Unbroken name) :
    render { style with singleFile := false } plan =
      (Usings.ofList (requiredNamespaces plan)).render ++ "\n\n" ++
        if plan.mappingNamespace = "" then render { style with singleFile := true } plan
        else "namespace " ++ plan.mappingNamespace ++ "\n\x7b\n" ++
          indented (render { style with singleFile := true } plan) ++ "\x7d\n" := by
  have hn : Unbroken plan.entityNamespace := h _ (by simp [MappingPlan.names])
  have hclass : render { style with singleFile := true } plan = renderLines (classLines style plan) :=
    rfl
  have hfile : render { style with singleFile := false } plan =
      renderLines (usingLines plan ++ blankLine :: withinNamespace plan (classLines style plan)) :=
    rfl
  have hblank : "\n\n" = "\n" ++ "\n" := by decide
  have hopen : "\n\x7b\n" = "\n" ++ ("\x7b" ++ "\n") := by decide
  have hclose : "\x7d\n" = "\x7d" ++ "\n" := by decide
  have hw : renderLines (withinNamespace plan (classLines style plan)) =
      if plan.mappingNamespace = "" then renderLines (classLines style plan)
      else "namespace " ++ plan.mappingNamespace ++ "\n\x7b\n" ++
        indented (renderLines (classLines style plan)) ++ "\x7d\n" := by
    unfold withinNamespace
    by_cases he : plan.mappingNamespace = ""
    · simp [he]
    · rw [indented_renderLines (oneLine_classLines h), hopen, hclose]
      have hempty : plan.mappingNamespace.isEmpty = false := by simpa using he
      rw [hempty, if_neg he, if_neg Bool.false_ne_true, braced, renderLines_cons, List.cons_append,
        renderLines_cons, renderLines_append, renderLines_cons, renderLines_nil]
      simp only [render_line, String.append_assoc, String.append_empty]
  rw [hfile, renderLines_append, renderLines_usingLines hn, renderLines_cons, hw, hclass, hblank]
  simp only [render_of_empty, blankLine, line, String.empty_append, String.append_assoc]

end SourceText

namespace Sample

def shopOrdersPlan : MappingPlan :=
  { ordersPlan with entityNamespace := "Shop", mappingNamespace := "Shop.Mapping" }

end Sample

namespace SourceText

open Sample in
theorem render_ownFile_shopOrders :
    (∀ name ∈ shopOrdersPlan.names, Unbroken name) ∧
      render { document := true } shopOrdersPlan =
        (Usings.ofList (requiredNamespaces shopOrdersPlan)).render ++ "\n\n" ++
          ("namespace " ++ "Shop.Mapping" ++ "\n\x7b\n" ++
            indented (render { document := true, singleFile := true } shopOrdersPlan) ++
              "\x7d\n") := by
  have hn : ∀ name ∈ shopOrdersPlan.names, Unbroken name := by
    unfold Unbroken
    decide +kernel
  have hne : shopOrdersPlan.mappingNamespace ≠ "" := by decide
  refine ⟨hn, ?_⟩
  have h := render_ownFile { document := true } shopOrdersPlan hn
  rwa [if_neg hne] at h

end SourceText

end EntityMapping
