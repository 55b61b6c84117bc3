import EntityMapping.Proofs.SourceText.Statements

/-! # Classes that can be read back

The statements of a class end where a brace closes at an outer level, and its constants begin with an
empty line. Both are legible, whatever the class is called and whether it is documented.
-/

namespace EntityMapping

namespace SourceText

section Blocks

variable {n : Nat} {s t : List Char}

def openingLines (n : Nat) (head : String) : List Char :=
  margin n ++ (head.toList ++ '\n' :: (margin n ++ ['\x7b', '\n']))

def closingLine (n : Nat) : List Char := margin n ++ ['\x7d', '\n']

theorem charsAt_block {head : String} (h : head ≠ "") (ls : List Line) :
    charsAt n (line head :: braced ls) =
      openingLines n head ++ (charsAt (n + 1) ls ++ closingLine n) := by
  rw [charsAt_line h, charsAt_braced, openingLines, closingLine]
  simp

theorem feed_ne_closing : '\n' :: s ≠ closingLine n ++ t := by
  cases n <;> simp [closingLine, margin, List.replicate_succ, Nat.mul_add]

theorem deeper_ne_closing : margin (n + 1) ++ s ≠ closingLine n ++ t := by
  intro h
  rw [margin_succ, closingLine, List.append_assoc, List.append_assoc] at h
  simpa using List.append_cancel_left h

end Blocks

section Body

variable {entityClass : String} {n : Nat} {previous : Option Section} {g g' : Section}
  {s t : List Char} {ss : List Statement}

def headingLines (previous : Option Section) (g : Section) : List Line :=
  (if previous.isSome then [blankLine] else []) ++
  (if previous = some g then [] else [line ("// " ++ g.title)])

theorem bodyLines_cons (s : Statement) :
    bodyLines entityClass previous (s :: ss) =
      headingLines previous s.group ++
        (statementLines entityClass s ++ bodyLines entityClass (some s.group) ss) := by
  simp [bodyLines, headingLines]

theorem charsAt_title (g : Section) :
    charsAt n [line ("// " ++ g.title)] =
      margin n ++ ("// ".toList ++ (g.title.toList ++ ['\n'])) := by
  rw [charsAt_line]
  · simp
  · simp

theorem not_mem_title (g : Section) : '\n' ∉ g.title.toList := by
  cases g <;> decide

theorem title_ne_statement :
    charsAt n [line ("// " ++ g.title)] ++ s ≠ margin n ++ "builder.".toList ++ t := by
  intro h
  simp only [charsAt_title, List.append_assoc] at h
  simpa using List.append_cancel_left h

/-- A heading cannot be taken for another one, as statements do not begin like titles. -/
theorem headingLines_inj (hs : margin n ++ "builder.".toList <+: s)
    (ht : margin n ++ "builder.".toList <+: t)
    (h : charsAt n (headingLines previous g) ++ s = charsAt n (headingLines previous g') ++ t) :
    s = t := by
  simp only [headingLines, charsAt_append, List.append_assoc] at h
  have h := List.append_cancel_left h
  split_ifs at h
  · exact h
  · obtain ⟨s, rfl⟩ := hs
    exact (title_ne_statement h.symm).elim
  · obtain ⟨t, rfl⟩ := ht
    exact (title_ne_statement h).elim
  · simp only [charsAt_title, List.append_assoc, List.cons_append, List.nil_append] at h
    have h := List.append_cancel_left (List.append_cancel_left h)
    exact (append_cons_inj (p := (· ≠ '\n')) (fun c hc he => not_mem_title g (he ▸ hc))
      (fun c hc he => not_mem_title g' (he ▸ hc)) (by simp) (by simp) h).2.2

theorem builder_prefix_opening (s : Statement) : "builder.".toList <+: (opening s).toList := by
  cases s <;> dsimp only [opening] <;> decide

theorem builder_prefix_statementLines (s : Statement) :
    margin n ++ "builder.".toList <+: charsAt n (statementLines entityClass s) ++ t := by
  obtain ⟨x, hx⟩ := builder_prefix_opening s
  rw [charsAt_statementLines, ← hx]
  exact ⟨x ++ (remainder entityClass n s ++ t), by simp only [List.append_assoc]⟩

theorem bodyLines_ne_closing (statement : Statement) :
    charsAt (n + 1) (bodyLines entityClass previous (statement :: ss)) ++ s ≠
      closingLine n ++ t := by
  intro h
  simp only [bodyLines_cons, headingLines, charsAt_append, List.append_assoc] at h
  cases previous with
  | none =>
    simp only [Option.isSome_none, Bool.false_eq_true, if_false, reduceCtorEq, charsAt_nil,
      List.nil_append, charsAt_title, List.append_assoc] at h
    exact deeper_ne_closing h
  | some previous =>
    simp only [Option.isSome_some, if_true, charsAt_blankLine, charsAt_nil, List.cons_append,
      List.nil_append] at h
    exact feed_ne_closing h

theorem legible_bodyLines : Legible
    (fun ss : List Statement => ∀ a ∈ ss, ∀ name ∈ a.identifiers, Spelled name)
    fun ss => charsAt (n + 1) (bodyLines entityClass previous ss) ++ closingLine n := by
  intro ss ss' s t hs hs' h
  simp only [List.append_assoc] at h
  induction ss generalizing ss' previous with
  | nil =>
    cases ss' with
    | nil => exact ⟨rfl, List.append_cancel_left (List.append_cancel_left h)⟩
    | cons b ss' => exact (bodyLines_ne_closing b h.symm).elim
  | cons a ss ih =>
    cases ss' with
    | nil => exact (bodyLines_ne_closing a h).elim
    | cons b ss' =>
      obtain ⟨ha, hss⟩ := List.forall_mem_cons.mp hs
      obtain ⟨hb, hss'⟩ := List.forall_mem_cons.mp hs'
      simp only [bodyLines_cons, charsAt_append, List.append_assoc] at h
      have h := headingLines_inj (builder_prefix_statementLines a) (builder_prefix_statementLines b) h
      obtain ⟨rfl, hrest⟩ := legible_statementLines ha hb h
      obtain ⟨rfl, ht⟩ := ih hss hss' hrest
      exact ⟨rfl, ht⟩

end Body

section Constants

variable {style : Style} {plan : MappingPlan} {n : Nat} {s t : List Char}

theorem charsAt_flatMap {α : Type} (f : α → List Line) (as : List α) :
    charsAt n (as.flatMap f) = as.flatMap fun a => charsAt n (f a) := by
  induction as with
  | nil => rfl
  | cons a as ih => simp [ih]

theorem charsAt_stringConstant (name value : String) :
    charsAt n [stringConstant name value] =
      margin n ++ ("public const string ".toList ++ (name.toList ++ (" = ".toList ++
        ((literal value).toList ++ [';', '\n'])))) := by
  rw [stringConstant, charsAt_line]
  · simp
  · simp

theorem charsAt_summaryLine (text : String) :
    charsAt n (style.comments (summaryLine text)) =
      if style.document then
        margin n ++ ("/// <summary>".toList ++ (text.toList ++ "</summary>\n".toList))
      else [] := by
  unfold Style.comments
  split
  · simp only [summaryLine, List.map_cons, List.map_nil]
    rw [charsAt_line]
    · simp
    · simp
  · rfl

theorem legible_columnLines : Legible (fun column : String × String => Spelled column.1)
    fun column => charsAt n (columnLines style plan column) := by
  rintro ⟨name, value⟩ ⟨name', value'⟩ s t hn hn' h
  simp only [columnLines, charsAt_append, charsAt_summaryLine, charsAt_stringConstant,
    List.append_assoc] at h
  have hname : name = name' := by
    -- A documented constant has its name in the documentation first.
    split at h
    · have hquote : "\" />".toList = '"' :: " />".toList := by decide
      simp only [seeAlso, String.toList_append, List.append_assoc, hquote, List.cons_append,
        List.append_cancel_left_eq] at h
      exact ((legible_spelled (by decide)).before hn hn' h).1
    · have hequals : " = ".toList = ' ' :: "= ".toList := by decide
      simp only [List.nil_append, hequals, List.cons_append, List.append_cancel_left_eq] at h
      exact ((legible_spelled (by decide)).before hn hn' h).1
  obtain rfl := hname
  simp only [List.append_cancel_left_eq] at h
  obtain ⟨rfl, ht⟩ := legible_literal trivial trivial h
  exact ⟨rfl, List.append_cancel_left ht⟩

def tableConstant (style : Style) (plan : MappingPlan) (title name value : String) : List Line :=
  style.comments (summaryLine (title ++ seeAlso (qualifiedEntity plan))) ++
    [stringConstant name value]

def schemaConstant (style : Style) (plan : MappingPlan) (schema : Option String) : List Line :=
  schema.toList.flatMap
    (tableConstant style plan "Table Schema name constant for entity " "Schema")

def nameConstant (style : Style) (plan : MappingPlan) (name : String) : List Line :=
  tableConstant style plan "Table Name constant for entity " "Name" name

theorem tableStruct_eq (constants : TableConstants) :
    tableStruct style plan constants = line "public struct Table" ::
      braced (schemaConstant style plan constants.schema ++
        nameConstant style plan constants.name) := by
  cases h : constants.schema <;>
    simp [tableStruct, schemaConstant, nameConstant, tableConstant, h]

theorem legible_tableConstant (title name : String) : Legible (fun _ => True)
    fun value => charsAt n (tableConstant style plan title name value) := by
  intro a b s t _ _ h
  simp only [tableConstant, charsAt_append, charsAt_stringConstant, List.append_assoc,
    List.append_cancel_left_eq] at h
  obtain ⟨rfl, ht⟩ := legible_literal trivial trivial h
  exact ⟨rfl, List.append_cancel_left ht⟩

theorem tableConstant_ne (schema name : String) :
    Diverge
      (charsAt n (tableConstant style plan "Table Schema name constant for entity " "Schema" schema))
      (charsAt n (nameConstant style plan name)) := by
  intro s t h
  simp only [nameConstant, tableConstant, charsAt_append, charsAt_summaryLine,
    charsAt_stringConstant, List.append_assoc] at h
  split at h
  · simp only [String.toList_append, List.append_assoc] at h
    simpa using List.append_cancel_left (List.append_cancel_left h)
  · simpa using List.append_cancel_left (List.append_cancel_left h)

theorem legible_tableStruct : Legible (fun _ => True) fun table : Option String × String =>
    charsAt n (schemaConstant style plan table.1 ++ nameConstant style plan table.2) := by
  rintro ⟨schema, name⟩ ⟨schema', name'⟩ s t _ _ h
  simp only [charsAt_append, List.append_assoc] at h
  cases schema <;> cases schema' <;>
    simp only [schemaConstant, Option.toList_none, Option.toList_some, List.flatMap_nil,
      List.flatMap_singleton, charsAt_nil, List.nil_append] at h
  case none.none =>
    obtain ⟨rfl, ht⟩ := legible_tableConstant _ _ trivial trivial h
    exact ⟨rfl, ht⟩
  case none.some => exact (tableConstant_ne _ _ _ _ h.symm).elim
  case some.none => exact (tableConstant_ne _ _ _ _ h).elim
  case some.some =>
    obtain ⟨rfl, hn⟩ := legible_tableConstant _ _ trivial trivial h
    obtain ⟨rfl, ht⟩ := legible_tableConstant _ _ trivial trivial hn
    exact ⟨rfl, ht⟩

theorem legible_columns : Legible
    (fun columns : List (String × String) => ∀ column ∈ columns, Spelled column.1)
    fun columns => columns.flatMap (fun column => charsAt (n + 1) (columnLines style plan column)) ++
      closingLine n := by
  refine legible_columnLines.list fun column _ s t h => ?_
  simp only [columnLines, charsAt_append, charsAt_summaryLine, charsAt_stringConstant,
    List.append_assoc, List.cons_append] at h
  split at h
  · simp only [List.append_assoc] at h
    exact deeper_ne_closing h
  · exact deeper_ne_closing h

theorem charsAt_constantsLines (constants : TableConstants) :
    charsAt n (constantsLines style plan constants) =
      openingLines n "public struct Table" ++
        (charsAt (n + 1) (schemaConstant style plan constants.schema ++
          nameConstant style plan constants.name) ++ closingLine n) ++
      '\n' :: (openingLines n "public struct Columns" ++
        ((constants.columns.flatMap fun column => charsAt (n + 1) (columnLines style plan column)) ++
          closingLine n)) := by
  rw [constantsLines, tableStruct_eq, columnsStruct, charsAt_append, charsAt_blankLine,
    charsAt_block (by decide), charsAt_block (by decide), charsAt_flatMap]

theorem legible_constantsLines : Legible
    (fun constants : TableConstants => ∀ column ∈ constants.columns, Spelled column.1)
    fun constants => charsAt n (constantsLines style plan constants) := by
  rintro ⟨schema, name, columns⟩ ⟨schema', name', columns'⟩ s t ha hb h
  simp only [charsAt_constantsLines, List.append_assoc, List.cons_append] at h
  obtain ⟨htable, h⟩ := legible_tableStruct (a := (_, _)) (b := (_, _)) trivial trivial
    (List.append_cancel_left h)
  have h := (List.cons.inj (List.append_cancel_left h)).2
  obtain ⟨rfl, ht⟩ := legible_columns.before ha hb (List.append_cancel_left h)
  obtain ⟨rfl, rfl⟩ := Prod.mk.inj htable
  exact ⟨rfl, ht⟩

def constantsPart (style : Style) (plan : MappingPlan) (constants : Option TableConstants) :
    List Line :=
  constants.toList.flatMap fun constants => blankLine :: constantsLines style plan constants

theorem legible_constantsPart : Legible
    (fun constants : Option TableConstants =>
      ∀ c ∈ constants.toList, ∀ column ∈ c.columns, Spelled column.1)
    fun constants => charsAt (n + 1) (constantsPart style plan constants) ++ closingLine n := by
  intro a b s t ha hb h
  have hw : Legible
      (fun constants : TableConstants => ∀ column ∈ constants.columns, Spelled column.1)
      fun constants => charsAt (n + 1) (blankLine :: constantsLines style plan constants) := by
    intro a b s t ha hb h
    exact legible_constantsLines ha hb (List.cons.inj h).2
  simp only [constantsPart, charsAt_flatMap] at h
  obtain ⟨hc, ht⟩ := hw.list (fun _ _ _ _ => feed_ne_closing) ha hb h
  refine ⟨?_, ht⟩
  cases a <;> cases b <;> simp_all

end Constants

section Classes

variable {style : Style} {p q : MappingPlan} {n : Nat} {s t : List Char}

/-- Plans for the same classes in the same namespaces. -/
structure SameClasses (p q : MappingPlan) : Prop where
  entityClass : p.entityClass = q.entityClass
  entityNamespace : p.entityNamespace = q.entityNamespace
  mappingClass : p.mappingClass = q.mappingClass
  mappingNamespace : p.mappingNamespace = q.mappingNamespace

theorem SameClasses.symm (h : SameClasses p q) : SameClasses q p :=
  ⟨h.entityClass.symm, h.entityNamespace.symm, h.mappingClass.symm, h.mappingNamespace.symm⟩

def classOpening (style : Style) (plan : MappingPlan) (n : Nat) : List Char :=
  charsAt n (style.comments
    (summary ("Allows configuration for an entity type " ++ seeAlso (qualifiedEntity plan)))) ++
  openingLines n ("internal class " ++ plan.mappingClass ++ " : IEntityTypeConfiguration<" ++
    plan.entityClass ++ ">") ++
  charsAt (n + 1) (style.comments
    (summary ("Configures the entity of type " ++ seeAlso (qualifiedEntity plan)) ++
      ["<param name=\"builder\">The builder to be used to configure the entity type.</param>"])) ++
  openingLines (n + 1)
    ("public void Configure(EntityTypeBuilder<" ++ plan.entityClass ++ "> builder)")

theorem classLines_eq (style : Style) (plan : MappingPlan) :
    classLines style plan =
      style.comments
        (summary ("Allows configuration for an entity type " ++ seeAlso (qualifiedEntity plan))) ++
      line ("internal class " ++ plan.mappingClass ++ " : IEntityTypeConfiguration<" ++
        plan.entityClass ++ ">") ::
      braced (configureLines style plan ++ constantsPart style plan plan.constants) := by
  unfold classLines constantsPart
  cases plan.constants <;> simp

theorem charsAt_classLines (plan : MappingPlan) :
    charsAt n (classLines style plan) =
      classOpening style plan n ++
        ((charsAt (n + 2) (bodyLines plan.entityClass none plan.statements) ++
          closingLine (n + 1)) ++
        (charsAt (n + 1) (constantsPart style plan plan.constants) ++ closingLine n)) := by
  have hclass : "internal class " ++ plan.mappingClass ++ " : IEntityTypeConfiguration<" ++
      plan.entityClass ++ ">" ≠ "" := by simp
  have hconfigure : "public void Configure(EntityTypeBuilder<" ++ plan.entityClass ++
      "> builder)" ≠ "" := by simp
  rw [classLines_eq, charsAt_append, charsAt_block hclass, charsAt_append, configureLines,
    charsAt_append, charsAt_block hconfigure, classOpening]
  simp only [List.append_assoc]

theorem SameClasses.qualifiedEntity (h : SameClasses p q) :
    qualifiedEntity p = qualifiedEntity q := by
  rw [SourceText.qualifiedEntity, SourceText.qualifiedEntity, h.entityClass, h.entityNamespace]

theorem SameClasses.classOpening (h : SameClasses p q) :
    classOpening style p n = classOpening style q n := by
  rw [SourceText.classOpening, SourceText.classOpening, h.qualifiedEntity, h.entityClass,
    h.mappingClass]

theorem SameClasses.constantsLines (h : SameClasses p q) (constants : TableConstants) :
    constantsLines style p constants = constantsLines style q constants := by
  have hc : columnLines style p = columnLines style q := by
    funext column
    rw [columnLines, columnLines, h.qualifiedEntity]
  rw [SourceText.constantsLines, SourceText.constantsLines, tableStruct, tableStruct, columnsStruct,
    columnsStruct, h.qualifiedEntity, hc]

theorem classLines_inj (hn : SameClasses p q) (hp : ∀ name ∈ p.identifiers, Spelled name)
    (hq : ∀ name ∈ q.identifiers, Spelled name)
    (h : charsAt n (classLines style p) ++ s = charsAt n (classLines style q) ++ t) :
    p.statements = q.statements ∧ p.constants = q.constants ∧ s = t := by
  have hstatements : ∀ plan : MappingPlan, (∀ name ∈ plan.identifiers, Spelled name) →
      ∀ a ∈ plan.statements, ∀ name ∈ a.identifiers, Spelled name := by
    intro plan h a ha name hname
    exact h name (List.mem_append_left _ (List.mem_flatMap.mpr ⟨a, ha, hname⟩))
  have hconstants : ∀ plan : MappingPlan, (∀ name ∈ plan.identifiers, Spelled name) →
      ∀ c ∈ plan.constants.toList, ∀ column ∈ c.columns, Spelled column.1 := by
    intro plan h c hc column hm
    exact h column.1 (List.mem_append_right _
      (List.mem_flatMap.mpr ⟨c, hc, List.mem_map_of_mem hm⟩))
  have hpart : ∀ constants, constantsPart style p constants = constantsPart style q constants := by
    intro constants
    simp only [constantsPart, hn.constantsLines]
  simp only [charsAt_classLines, hn.classOpening, hn.entityClass, hpart, List.append_assoc] at h
  obtain ⟨hs, h⟩ := legible_bodyLines.before (hstatements p hp) (hstatements q hq)
    (List.append_cancel_left h)
  obtain ⟨hc, ht⟩ := legible_constantsPart.before (hconstants p hp) (hconstants q hq) h
  exact ⟨hs, hc, ht⟩

end Classes

end SourceText

end EntityMapping
