import EntityMapping.Proofs.SourceText.Nesting

/-! # New-line characters in source text

A line of C# ends at any of five characters, and a string literal has to end on the line that it
begins on. Of the five, a literal escapes the line feed and the carriage return. So the text of a
class has line feeds where its lines end, no carriage returns, and the other three exactly where
one of the texts that it quotes has them.
-/

namespace EntityMapping

def Directive.texts : Directive → List String
  | .columnType s | .columnName s | .defaultValueSql s | .computedColumnSql s => [s]
  | _ => []

def Statement.texts : Statement → List String
  | .table name schema | .view name schema => name :: schema.toList
  | .noKey | .key _ => []
  | .property _ directives => directives.flatMap Directive.texts
  | .relationship r => r.constraintName.toList
  | .index i => i.name.toList ++ i.filter.toList
  | .alternateKey _ name => [name]

def TableConstants.texts (constants : TableConstants) : List String :=
  constants.schema.toList ++ constants.name :: constants.columns.map Prod.snd

/-- All that a mapping class writes as string literals, in the order in which it does. -/
def MappingPlan.texts (plan : MappingPlan) : List String :=
  plan.statements.flatMap Statement.texts ++ plan.constants.toList.flatMap TableConstants.texts

namespace Sample

def brokenOrdersPlan : MappingPlan :=
  { entityClass := "Order"
    mappingClass := "OrderMap"
    statements := [.table "Or\u0085d\u2028e\u2029rs" none] }

end Sample

namespace SourceText

/-- The characters that end a line of C#. -/
def newLines : List Char := ['\n', '\r', '\u0085', '\u2028', '\u2029']

/-- Those of them that stand for themselves in a literal. -/
def unescaped : List Char := ['\u0085', '\u2028', '\u2029']

def Inline (text : String) : Prop := ∀ c ∈ text.toList, c ∉ newLines

instance (text : String) : Decidable (Inline text) :=
  List.decidableBAll (· ∉ newLines) text.toList

/-- The text has these literals in it, in order, and nothing else that could end a line. -/
inductive Quotes : String → List String → Prop
  | inline {text : String} : Inline text → Quotes text []
  | quote (s : String) : Quotes (literal s) [s]
  | append {text text' : String} {quoted quoted' : List String} :
      Quotes text quoted → Quotes text' quoted' → Quotes (text ++ text') (quoted ++ quoted')

/-- Texts one after the other that have these literals in them, each literal in one of the texts. -/
inductive QuotedIn : List String → List String → Prop
  | nil : QuotedIn [] []
  | cons {text : String} {texts quoted quoted' : List String} :
      Quotes text quoted → QuotedIn texts quoted' → QuotedIn (text :: texts) (quoted ++ quoted')

section Quotes

variable {s text back front : String} {texts texts' quoted quoted' names : List String} {c : Char}

@[simp] theorem inline_append : Inline (front ++ back) ↔ Inline front ∧ Inline back := by
  simp only [Inline, String.toList_append, List.forall_mem_append]

theorem Inline.unbroken (h : Inline text) : Unbroken text := fun hm => h _ hm (by decide)

theorem inline_repr (i : Int) : Inline i.repr := by
  intro c hc
  have hn : Decimal.IsNumeric c := Decimal.isNumeric_of_mem_repr hc
  simp only [newLines, List.mem_cons, List.not_mem_nil, or_false]
  rintro (rfl | rfl | rfl | rfl | rfl) <;> simp [Decimal.IsNumeric] at hn

theorem filter_escapeChar (c : Char) :
    (escapeChar c).filter (· ∈ newLines) = [c].filter (· ∈ unescaped) := by
  unfold escapeChar
  split
  case h_7 hbackslash hquote hfeed hreturn htab hnul =>
    have he : c ∈ newLines ↔ c ∈ unescaped := by
      simp [newLines, unescaped, show c ≠ '\n' from hfeed, show c ≠ '\r' from hreturn]
    simp only [List.filter_singleton, he]
  all_goals decide

theorem filter_literal (s : String) :
    (literal s).toList.filter (· ∈ newLines) = s.toList.filter (· ∈ unescaped) := by
  have hs : s.toList.filter (· ∈ unescaped) =
      s.toList.flatMap fun c => [c].filter (· ∈ unescaped) := by
    induction s.toList with
    | nil => rfl
    | cons c cs ih => rw [List.flatMap_cons, ← ih, ← List.filter_append]; rfl
  have hq : ['"'].filter (· ∈ newLines) = [] := by decide
  have hl : (literal s).toList = ['"'] ++ (s.toList.flatMap escapeChar ++ ['"']) :=
    toList_literal s
  rw [hl, List.filter_append, List.filter_append, hq, List.filter_flatMap, hs, List.append_nil,
    List.nil_append]
  simp only [filter_escapeChar]

theorem inline_literal_iff : Inline (literal s) ↔ ∀ c ∈ s.toList, c ∉ unescaped := by
  have hl := List.filter_eq_nil_iff (p := (· ∈ newLines)) (l := (literal s).toList)
  have hs := List.filter_eq_nil_iff (p := (· ∈ unescaped)) (l := s.toList)
  simp only [decide_eq_true_eq] at hl hs
  rw [Inline, ← hl, filter_literal, hs]

theorem Quotes.filter (h : Quotes text quoted) :
    text.toList.filter (· ∈ newLines) = quoted.flatMap (·.toList.filter (· ∈ unescaped)) := by
  induction h with
  | inline hi => exact List.filter_eq_nil_iff.mpr fun c hc => by simpa using hi c hc
  | quote s => simpa using filter_literal s
  | append _ _ ih ih' =>
    rw [String.toList_append, List.filter_append, ih, ih', List.flatMap_append]

theorem Quotes.exists_literal (h : Quotes text quoted) (hs : s ∈ quoted) :
    (literal s).toList <:+: text.toList := by
  induction h with
  | inline _ => cases hs
  | quote s' => exact List.mem_singleton.mp hs ▸ List.infix_rfl
  | append _ _ ih ih' =>
    rw [String.toList_append]
    rcases List.mem_append.mp hs with hs | hs
    · exact (ih hs).trans (List.prefix_append _ _).isInfix
    · exact (ih' hs).trans (List.suffix_append _ _).isInfix

theorem Quotes.between (h : Quotes text quoted) (hf : Inline front) (hb : Inline back) :
    Quotes (front ++ text ++ back) quoted := by
  simpa using ((Quotes.inline hf).append h).append (.inline hb)

theorem QuotedIn.append (h : QuotedIn texts quoted) (h' : QuotedIn texts' quoted') :
    QuotedIn (texts ++ texts') (quoted ++ quoted') := by
  induction h with
  | nil => exact h'
  | cons ht _ ih =>
    rw [List.append_assoc]
    exact .cons ht ih

theorem QuotedIn.inline (ht : Inline text) (h : QuotedIn texts quoted) :
    QuotedIn (text :: texts) quoted :=
  .cons (.inline ht) h

theorem quotedIn_of_inline (h : ∀ text ∈ texts, Inline text) : QuotedIn texts [] := by
  induction texts with
  | nil => exact .nil
  | cons text texts ih =>
    obtain ⟨ht, hts⟩ := List.forall_mem_cons.mp h
    exact .inline ht (ih hts)

theorem Quotes.quotedIn (h : Quotes text quoted) : QuotedIn [text] quoted := by
  simpa using QuotedIn.cons h .nil

theorem quotedIn_map {α : Type} {f : α → String} {g : α → List String} {as : List α}
    (h : ∀ a ∈ as, Quotes (f a) (g a)) : QuotedIn (as.map f) (as.flatMap g) := by
  induction as with
  | nil => exact .nil
  | cons a as ih =>
    obtain ⟨ha, has⟩ := List.forall_mem_cons.mp h
    exact .cons ha (ih has)

theorem QuotedIn.exists_mem (h : QuotedIn texts quoted) (hs : s ∈ quoted) :
    ∃ text ∈ texts, (literal s).toList <:+: text.toList := by
  induction h with
  | nil => cases hs
  | cons ht _ ih =>
    rcases List.mem_append.mp hs with hs | hs
    · exact ⟨_, List.mem_cons_self, ht.exists_literal hs⟩
    · obtain ⟨text, hm, hi⟩ := ih hs
      exact ⟨text, List.mem_cons_of_mem _ hm, hi⟩

theorem QuotedIn.filter (h : QuotedIn texts quoted) :
    texts.flatMap (·.toList.filter (· ∈ newLines)) =
      quoted.flatMap (·.toList.filter (· ∈ unescaped)) := by
  induction h with
  | nil => rfl
  | cons ht _ ih => rw [List.flatMap_cons, List.flatMap_append, ht.filter, ih]

theorem inline_intercalate (hs : Inline s) (h : ∀ text ∈ texts, Inline text) :
    Inline (s.intercalate texts) := by
  intro c hc
  rw [String.toList_intercalate] at hc
  rcases mem_of_mem_intercalate hc with hc | ⟨chars, hm, hc⟩
  · exact hs c hc
  · obtain ⟨text, ht, rfl⟩ := List.mem_map.mp hm
    exact h text ht c hc

end Quotes

section Statements

variable {entityClass : String} {names : List String} {s : Statement}

theorem inline_entitySelector (h : ∀ name ∈ names, Inline name) :
    Inline (entitySelector names) := by
  have hm : ∀ name ∈ names, Inline (member "e" name) := fun name hn => by
    rw [member, inline_append, inline_append]
    exact ⟨by decide, h name hn⟩
  unfold entitySelector memberSelector
  rw [inline_append]
  refine ⟨by decide, ?_⟩
  split
  next name => exact hm name List.mem_cons_self
  next =>
    rw [inline_append, inline_append]
    exact ⟨⟨by decide, inline_intercalate (by decide) (List.forall_mem_map.mpr hm)⟩, by decide⟩

theorem quotes_tableArguments (name : String) (schema : Option String) :
    Quotes (tableArguments name schema) (name :: schema.toList) := by
  cases schema with
  | none => exact .quote name
  | some schema =>
    have hname : Quotes (literal name ++ ", ") [name] :=
      .append (.quote name) (.inline (by decide))
    exact hname.append (.quote schema)

def Argument.texts : Argument → List String
  | text value => [value]
  | _ => []

theorem Argument.quotes (a : Argument) : Quotes a.render a.texts := by
  cases a with
  | text value => exact .quote value
  | number value => exact .inline (inline_repr _)
  | _ => exact .inline (by decide)

theorem Call.quotes {c : Call} (h : Inline c.method) : Quotes c.render c.argument.texts := by
  refine c.argument.quotes.between ?_ (by decide)
  rw [inline_append, inline_append]
  exact ⟨⟨by decide, h⟩, by decide⟩

theorem quotes_directiveCall (d : Directive) : Quotes (directiveCall d) d.texts := by
  have ht : d.texts = (directiveSetting d).argument.texts := by
    cases d with
    | required value | unicode value => cases value <;> rfl
    | _ => rfl
  rw [← render_directiveSetting, ht]
  apply Call.quotes
  cases d <;> dsimp only [directiveSetting] <;> decide

theorem quotedIn_relationshipCalls {r : RelationshipBinding} (hc : Inline entityClass)
    (hp : Inline r.principalNavigation) (hk : ∀ name ∈ r.foreignKey, Inline name) :
    QuotedIn (relationshipCalls entityClass r) r.constraintName.toList := by
  have hinverse : Inline (inverseCall r.cardinality) := by
    cases r.cardinality <;> decide
  have htype : Inline (if r.oneToOne then "<" ++ entityClass ++ ">" else "") := by
    split
    · simp only [inline_append]
      exact ⟨⟨by decide, hc⟩, by decide⟩
    · decide
  unfold relationshipCalls
  refine .inline ?_ (.inline ?_ (.inline (by decide) ?_))
  · simp only [inline_append]
    exact ⟨⟨⟨hinverse, by decide⟩, hp⟩, by decide⟩
  · simp only [inline_append]
    exact ⟨⟨⟨⟨by decide, htype⟩, by decide⟩, inline_entitySelector hk⟩, by decide⟩
  · cases r.constraintName with
    | none => exact .nil
    | some name => exact ((Quotes.quote name).between (by decide) (by decide)).quotedIn

theorem quotedIn_indexCalls (i : IndexBinding) :
    QuotedIn (indexCalls i) (i.name.toList ++ i.filter.toList) := by
  have ht : i.name.toList ++ i.filter.toList =
      (indexSettings i).flatMap fun c => c.argument.texts := by
    obtain ⟨_, name, filter, unique⟩ := i
    cases name <;> cases filter <;> cases unique <;> rfl
  have hm : ∀ c ∈ indexSettings i, Inline c.method := by
    obtain ⟨_, name, filter, unique⟩ := i
    cases name <;> cases filter <;> cases unique <;>
      simp only [indexSettings, Option.toList_some, Option.toList_none, List.map_cons, List.map_nil,
        List.nil_append, List.cons_append, List.forall_mem_cons, if_true, Bool.false_eq_true,
        if_false] <;>
      decide
  rw [← render_indexSettings, ht]
  exact quotedIn_map fun c hc => Call.quotes (hm c hc)

end Statements

/-! ## The lines of a class -/

def texts (ls : List Line) : List String := ls.map Line.text

section Lines

variable {l : Line} {ls as bs : List Line} {head entityClass name : String}
  {calls comments quoted : List String} {s : Statement} {style : Style} {plan : MappingPlan}

@[simp] theorem texts_nil : texts [] = [] := rfl

@[simp] theorem texts_cons : texts (l :: ls) = l.text :: texts ls := rfl

@[simp] theorem texts_append : texts (as ++ bs) = texts as ++ texts bs := List.map_append

@[simp] theorem texts_indent : texts (indent ls) = texts ls := List.map_map

theorem QuotedIn.braced (h : QuotedIn (texts ls) quoted) : QuotedIn (texts (braced ls)) quoted := by
  have hclose : QuotedIn ["\x7d"] [] := quotedIn_of_inline (by decide)
  have hb : QuotedIn ("\x7b" :: (texts ls ++ ["\x7d"])) quoted := by
    simpa using QuotedIn.inline (by decide) (h.append hclose)
  simpa [SourceText.braced, line] using hb

theorem QuotedIn.afterBlank (h : QuotedIn (texts ls) quoted) :
    QuotedIn (texts (blankLine :: ls)) quoted :=
  .inline (show Inline "" by decide) h

theorem quotedIn_callLines (h : QuotedIn calls quoted) :
    QuotedIn (texts (callLines calls)) quoted := by
  induction h with
  | nil => exact .nil
  | @cons call calls quoted quoted' hc hcs ih =>
    cases calls with
    | nil =>
      cases hcs
      exact (hc.append (.inline (by decide))).quotedIn
    | cons next calls => exact .cons hc ih

theorem quotedIn_chain (hh : Inline head) (h : QuotedIn calls quoted) :
    QuotedIn (texts (chain head calls)) quoted := by
  cases calls with
  | nil =>
    cases h
    exact Quotes.quotedIn (.inline (inline_append.mpr ⟨hh, by decide⟩))
  | cons call calls =>
    have hcalls : QuotedIn (texts (indent (callLines (call :: calls)))) quoted := by
      rw [texts_indent]
      exact quotedIn_callLines h
    exact .inline hh hcalls

theorem quotedIn_statementLines (hc : Inline entityClass)
    (h : ∀ name ∈ s.identifiers, Inline name) :
    QuotedIn (texts (statementLines entityClass s)) s.texts := by
  cases s with
  | table name schema | view name schema =>
    exact ((quotes_tableArguments name schema).between (by decide) (by decide)).quotedIn
  | noKey =>
    have hk : Inline "builder.HasNoKey();" := by decide
    exact Quotes.quotedIn (.inline hk)
  | key columns =>
    refine Quotes.quotedIn (.inline ?_)
    simp only [inline_append, line]
    exact ⟨⟨by decide, inline_entitySelector h⟩, by decide⟩
  | property name directives =>
    refine quotedIn_chain ?_ (quotedIn_map fun d _ => quotes_directiveCall d)
    simp only [inline_append]
    exact ⟨⟨by decide, h name List.mem_cons_self⟩, by decide⟩
  | relationship r =>
    obtain ⟨hn, hp, hk⟩ : Inline r.navigation ∧ Inline r.principalNavigation ∧
        ∀ name ∈ r.foreignKey, Inline name := by
      simpa [Statement.identifiers] using h
    refine quotedIn_chain ?_ (quotedIn_relationshipCalls hc hp hk)
    simp only [inline_append]
    exact ⟨⟨by decide, hn⟩, by decide⟩
  | index i =>
    refine quotedIn_chain ?_ (quotedIn_indexCalls i)
    simp only [inline_append]
    exact ⟨⟨by decide, inline_entitySelector h⟩, by decide⟩
  | alternateKey columns name =>
    refine quotedIn_chain ?_ ((Quotes.quote name).between (by decide) (by decide)).quotedIn
    simp only [inline_append]
    exact ⟨⟨by decide, inline_entitySelector h⟩, by decide⟩

theorem quotedIn_bodyLines {statements : List Statement} (hc : Inline entityClass)
    (h : ∀ s ∈ statements, ∀ name ∈ s.identifiers, Inline name) (previous : Option Section) :
    QuotedIn (texts (bodyLines entityClass previous statements))
      (statements.flatMap Statement.texts) := by
  induction statements generalizing previous with
  | nil => exact .nil
  | cons s statements ih =>
    obtain ⟨hs, hss⟩ := List.forall_mem_cons.mp h
    have ht : ∀ g : Section, Inline ("// " ++ g.title) := fun g => by cases g <;> decide
    have hh : ∀ text ∈ texts (headingLines previous s.group), Inline text := by
      unfold headingLines
      split_ifs <;> simp [blankLine, line, ht, show Inline "" by decide]
    rw [bodyLines_cons, texts_append, texts_append]
    exact (quotedIn_of_inline hh).append ((quotedIn_statementLines hc hs).append (ih hss _))

theorem quotedIn_comments (h : ∀ text ∈ comments, Inline text) :
    QuotedIn (texts (style.comments comments)) [] := by
  refine quotedIn_of_inline ?_
  have hc : ∀ text ∈ comments, Inline ("/// " ++ text) := fun text hm =>
    inline_append.mpr ⟨by decide, h text hm⟩
  unfold Style.comments
  split_ifs
  · simpa [texts, line] using hc
  · exact List.forall_mem_nil _

theorem quotedIn_constant (hn : Inline name) (value : String)
    (h : ∀ text ∈ comments, Inline text) :
    QuotedIn (texts (style.comments comments ++ [stringConstant name value])) [value] := by
  have hs : Quotes ("public const string " ++ name ++ " = " ++ literal value ++ ";") [value] := by
    refine (Quotes.quote value).between ?_ (by decide)
    simp only [inline_append]
    exact ⟨⟨by decide, hn⟩, by decide⟩
  rw [texts_append]
  exact (quotedIn_comments h).append hs.quotedIn

theorem inline_seeAlso (h : ∀ name ∈ plan.names, Inline name) :
    Inline (qualifiedEntity plan) ∧ Inline (seeAlso (qualifiedEntity plan)) := by
  have hc : Inline plan.entityClass := h _ (by simp [MappingPlan.names])
  have hn : Inline plan.entityNamespace := h _ (by simp [MappingPlan.names])
  have hq : Inline (qualifiedEntity plan) := by
    unfold qualifiedEntity
    split
    · exact hc
    · simp only [inline_append]
      exact ⟨⟨hn, by decide⟩, hc⟩
  refine ⟨hq, ?_⟩
  simp only [seeAlso, inline_append]
  exact ⟨⟨by decide, hq⟩, by decide⟩

theorem quotedIn_configureLines (h : ∀ name ∈ plan.names, Inline name) :
    QuotedIn (texts (configureLines style plan)) (plan.statements.flatMap Statement.texts) := by
  have hc : Inline plan.entityClass := h _ (by simp [MappingPlan.names])
  have hb : QuotedIn (texts (bodyLines plan.entityClass none plan.statements))
      (plan.statements.flatMap Statement.texts) := by
    refine quotedIn_bodyLines hc (fun s hs name hn => h name ?_) none
    simp only [MappingPlan.names, MappingPlan.identifiers, List.mem_append, List.mem_flatMap]
    exact .inr (.inl ⟨s, hs, hn⟩)
  have hcomments : ∀ text ∈ summary ("Configures the entity of type " ++
      seeAlso (qualifiedEntity plan)) ++
      ["<param name=\"builder\">The builder to be used to configure the entity type.</param>"],
      Inline text := by
    simp only [summary, List.cons_append, List.nil_append, List.forall_mem_cons, inline_append]
    exact ⟨by decide, ⟨by decide, (inline_seeAlso h).2⟩, by decide, by decide, List.forall_mem_nil _⟩
  have hhead : Inline ("public void Configure(EntityTypeBuilder<" ++ plan.entityClass ++
      "> builder)") := by
    simp only [inline_append]
    exact ⟨⟨by decide, hc⟩, by decide⟩
  unfold configureLines
  rw [texts_append]
  exact (quotedIn_comments hcomments).append (.inline hhead hb.braced)

theorem inline_summaryLine {text : String} (h : Inline text) :
    ∀ t ∈ summaryLine text, Inline t := by
  simp only [summaryLine, List.forall_mem_singleton, inline_append]
  exact ⟨⟨by decide, h⟩, by decide⟩

theorem quotedIn_tableConstant {title : String} (h : ∀ name ∈ plan.names, Inline name)
    (ht : Inline title) (hn : Inline name) (value : String) :
    QuotedIn (texts (tableConstant style plan title name value)) [value] :=
  quotedIn_constant hn value (inline_summaryLine (inline_append.mpr ⟨ht, (inline_seeAlso h).2⟩))

theorem quotedIn_columns {columns : List (String × String)} (h : ∀ name ∈ plan.names, Inline name)
    (hc : ∀ column ∈ columns, Inline column.1) :
    QuotedIn (texts (columns.flatMap (columnLines style plan))) (columns.map Prod.snd) := by
  induction columns with
  | nil => exact .nil
  | cons column columns ih =>
    obtain ⟨hcolumn, hrest⟩ := List.forall_mem_cons.mp hc
    have hreference : Inline ("Column Name constant for property " ++
        seeAlso (qualifiedEntity plan ++ "." ++ column.1)) := by
      simp only [seeAlso, inline_append]
      exact ⟨by decide, ⟨by decide, ⟨(inline_seeAlso h).1, by decide⟩, hcolumn⟩, by decide⟩
    rw [List.flatMap_cons, texts_append, List.map_cons]
    exact (quotedIn_constant hcolumn column.2 (inline_summaryLine hreference)).append (ih hrest)

theorem quotedIn_constantsLines {constants : TableConstants}
    (h : ∀ name ∈ plan.names, Inline name) (hc : ∀ column ∈ constants.columns, Inline column.1) :
    QuotedIn (texts (constantsLines style plan constants)) constants.texts := by
  have hschema : QuotedIn (texts (schemaConstant style plan constants.schema))
      constants.schema.toList := by
    unfold schemaConstant
    cases constants.schema with
    | none => exact .nil
    | some schema =>
      simpa using quotedIn_tableConstant h (by decide) (by decide) schema
  have hname : QuotedIn (texts (nameConstant style plan constants.name)) [constants.name] :=
    quotedIn_tableConstant h (by decide) (by decide) constants.name
  have htable : QuotedIn (texts (tableStruct style plan constants))
      (constants.schema.toList ++ [constants.name]) := by
    have hb := hschema.append hname
    rw [← texts_append] at hb
    rw [tableStruct_eq]
    exact .inline (by decide) hb.braced
  have hcolumns : QuotedIn (texts (columnsStruct style plan constants))
      (constants.columns.map Prod.snd) :=
    .inline (by decide) (quotedIn_columns h hc).braced
  have hc := htable.append hcolumns.afterBlank
  rw [← texts_append, List.append_assoc] at hc
  exact hc

theorem quotedIn_classLines (h : ∀ name ∈ plan.names, Inline name) :
    QuotedIn (texts (classLines style plan)) plan.texts := by
  have hm : Inline plan.mappingClass := h _ (by simp [MappingPlan.names])
  have hc : Inline plan.entityClass := h _ (by simp [MappingPlan.names])
  have hcomments : ∀ text ∈ summary ("Allows configuration for an entity type " ++
      seeAlso (qualifiedEntity plan)), Inline text := by
    simp only [summary, List.forall_mem_cons, inline_append]
    exact ⟨by decide, ⟨by decide, (inline_seeAlso h).2⟩, by decide, List.forall_mem_nil _⟩
  have hhead : Inline ("internal class " ++ plan.mappingClass ++ " : IEntityTypeConfiguration<" ++
      plan.entityClass ++ ">") := by
    simp only [inline_append]
    exact ⟨⟨⟨⟨by decide, hm⟩, by decide⟩, hc⟩, by decide⟩
  have hconstants : QuotedIn (texts (constantsPart style plan plan.constants))
      (plan.constants.toList.flatMap TableConstants.texts) := by
    have hnames : ∀ constants ∈ plan.constants, ∀ column ∈ constants.columns, Inline column.1 := by
      intro constants hm column hcolumn
      refine h column.1 ?_
      simp only [MappingPlan.names, MappingPlan.identifiers, List.mem_append, List.mem_flatMap]
      exact .inr (.inr ⟨constants, Option.mem_toList.mpr hm, List.mem_map_of_mem hcolumn⟩)
    unfold constantsPart
    cases hp : plan.constants with
    | none => exact .nil
    | some constants =>
      have hl : QuotedIn (texts (constantsLines style plan constants)) constants.texts :=
        quotedIn_constantsLines h (hnames constants hp)
      simpa using hl.afterBlank
  have hconfigure : QuotedIn (texts (configureLines style plan))
      (plan.statements.flatMap Statement.texts) := quotedIn_configureLines h
  have hb := hconfigure.append hconstants
  rw [← texts_append] at hb
  rw [classLines_eq, texts_append]
  exact (quotedIn_comments hcomments).append (.inline hhead hb.braced)

theorem quotedIn_usingLines (h : Inline plan.entityNamespace) :
    QuotedIn (texts (usingLines plan)) [] := by
  have hl : ∀ name ∈ libraryNamespaces, Inline name := by decide
  have hd : ∀ name, Inline name → Inline (Usings.directive name) := fun name hn => by
    simp only [Usings.directive, inline_append]
    exact ⟨⟨by decide, hn⟩, by decide⟩
  rw [usingLines_of_unbroken h.unbroken]
  refine quotedIn_of_inline fun text hm => ?_
  rw [texts, List.map_map] at hm
  obtain ⟨name, hname, rfl⟩ := List.mem_map.mp hm
  exact hd name (forall_mem_ordered hl h name hname)

theorem quotedIn_fileLines (h : ∀ name ∈ plan.names, Inline name) :
    QuotedIn (texts (fileLines style plan)) plan.texts := by
  have hentity : Inline plan.entityNamespace := h _ (by simp [MappingPlan.names])
  have hmapping : Inline plan.mappingNamespace := h _ (by simp [MappingPlan.names])
  have hc : QuotedIn (texts (classLines style plan)) plan.texts := quotedIn_classLines h
  have hw : QuotedIn (texts (withinNamespace plan (classLines style plan))) plan.texts := by
    unfold withinNamespace
    split
    · exact hc
    · exact .inline (inline_append.mpr ⟨by decide, hmapping⟩) hc.braced
  unfold fileLines
  split
  · exact hc
  · rw [texts_append]
    exact (quotedIn_usingLines hentity).append hw.afterBlank

end Lines

/-! ## Rows of a class -/

section Rows

variable {l : Line} {style : Style} {plan : MappingPlan} {s : String}

theorem filter_render (l : Line) :
    l.render.toList.filter (· ∈ newLines) = l.text.toList.filter (· ∈ newLines) := by
  by_cases he : l.text = ""
  · rw [render_of_empty he, he]
  · have hblank : (List.replicate (4 * l.level) ' ').filter (· ∈ newLines) = [] :=
      List.filter_replicate_of_neg (by decide)
    rw [toList_render he, List.filter_append, hblank, List.nil_append]

theorem text_infix_render (l : Line) : l.text.toList <:+: l.render.toList := by
  by_cases he : l.text = ""
  · simp only [render_of_empty he, he, List.infix_rfl]
  · rw [toList_render he]
    exact (List.suffix_append _ _).isInfix

theorem inline_iff_filter {text : String} :
    Inline text ↔ text.toList.filter (· ∈ newLines) = [] := by
  simp [Inline, List.filter_eq_nil_iff]

theorem rows_render (h : ∀ name ∈ plan.names, Inline name) :
    rows (render style plan) = (fileLines style plan).map Line.render ++ [""] :=
  rows_renderLines (oneLine_fileLines fun name hn => (h name hn).unbroken)

theorem filter_rows (h : ∀ name ∈ plan.names, Inline name) :
    (rows (render style plan)).flatMap (·.toList.filter (· ∈ newLines)) =
      plan.texts.flatMap (·.toList.filter (· ∈ unescaped)) := by
  have hq : QuotedIn (texts (fileLines style plan)) plan.texts := quotedIn_fileLines h
  have hlast : [""].flatMap (·.toList.filter (· ∈ newLines)) = [] := by decide
  rw [rows_render h, List.flatMap_append, hlast, List.append_nil, List.flatMap_map, ← hq.filter,
    texts, List.flatMap_map]
  simp only [filter_render]

theorem exists_row_of_mem (h : ∀ name ∈ plan.names, Inline name) (hs : s ∈ plan.texts) :
    ∃ row ∈ rows (render style plan), (literal s).toList <:+: row.toList := by
  have hq : QuotedIn (texts (fileLines style plan)) plan.texts := quotedIn_fileLines h
  obtain ⟨text, hm, hi⟩ := hq.exists_mem hs
  obtain ⟨l, hl, rfl⟩ := List.mem_map.mp hm
  refine ⟨l.render, ?_, hi.trans (text_infix_render l)⟩
  rw [rows_render h]
  exact List.mem_append_left _ (List.mem_map_of_mem hl)

theorem inline_row (h : ∀ name ∈ plan.names, Inline name)
    (hc : ∀ s ∈ plan.texts, ∀ c ∈ s.toList, c ∉ unescaped) :
    ∀ row ∈ rows (render style plan), Inline row := by
  have hempty : plan.texts.flatMap (·.toList.filter (· ∈ unescaped)) = [] :=
    List.flatMap_eq_nil_iff.mpr fun s hs =>
      List.filter_eq_nil_iff.mpr fun c hm => by simpa using hc s hs c hm
  have hfilter : (rows (render style plan)).flatMap (·.toList.filter (· ∈ newLines)) =
      plan.texts.flatMap (·.toList.filter (· ∈ unescaped)) := filter_rows h
  rw [hempty, List.flatMap_eq_nil_iff] at hfilter
  exact fun row hm => inline_iff_filter.mpr (hfilter row hm)

theorem mem_render (h : ∀ name ∈ plan.names, Inline name) {c : Char}
    (hm : c ∈ (render style plan).toList) :
    (∃ row ∈ rows (render style plan), c ∈ row.toList) ∨ c = '\n' := by
  rw [rows_render h]
  rw [render, toList_renderLines] at hm
  obtain ⟨l, hl, hm⟩ := List.mem_flatMap.mp hm
  obtain hm | hm := List.mem_append.mp hm
  · exact .inl ⟨_, List.mem_append_left _ (List.mem_map_of_mem hl), hm⟩
  · exact .inr (List.mem_singleton.mp hm)

/-- What ends a line of C# is a line feed that the writer has put between its lines or after the
last one, and every literal is on a line as a whole. -/
structure KeepsLines (style : Style) (plan : MappingPlan) : Prop where
  feeds : ∀ c ∈ (render style plan).toList, c ∈ newLines → c = '\n'
  lineEnds : rows (render style plan) =
    (Writer.run {} (fileWrites style plan)).lines.map Line.render ++ [""]
  literals : ∀ s ∈ plan.texts, ∃ row ∈ rows (render style plan),
    Inline row ∧ (literal s).toList <:+: row.toList

theorem keepsLines_of_inline (h : ∀ name ∈ plan.names, Inline name)
    (hrows : ∀ row ∈ rows (render style plan), Inline row) : KeepsLines style plan where
  feeds c hm hn := by
    obtain ⟨row, hrow, hc⟩ | hc := mem_render h hm
    · exact (hrows row hrow c hc hn).elim
    · exact hc
  lineEnds := by rw [run_fileWrites, rows_render h]
  literals s hs := by
    obtain ⟨row, hm, hi⟩ := exists_row_of_mem h hs
    exact ⟨row, hm, hrows row hm, hi⟩

/-- A class whose names end no lines is cut by its line feeds into the lines of its writer. Within
these, a new-line character stands exactly where a text that is quoted there has one that literals
do not escape. -/
theorem render_newLines (style : Style) (plan : MappingPlan)
    (h : ∀ name ∈ plan.names, Inline name) :
    (Writer.run {} (fileWrites style plan)).finish = render style plan ∧
    rows (render style plan) =
      (Writer.run {} (fileWrites style plan)).lines.map Line.render ++ [""] ∧
    (rows (render style plan)).flatMap (·.toList.filter (· ∈ newLines)) =
      plan.texts.flatMap (·.toList.filter (· ∈ unescaped)) ∧
    (∀ s ∈ plan.texts, ∃ row ∈ rows (render style plan), (literal s).toList <:+: row.toList) ∧
    (KeepsLines style plan ↔ ∀ s ∈ plan.texts, ∀ c ∈ s.toList, c ∉ unescaped) := by
  refine ⟨?_, ?_, filter_rows h, fun s hs => exists_row_of_mem h hs, fun hk s hs => ?_, fun hc => ?_⟩
  · rw [run_fileWrites, Writer.finish, render, renderLines_eq_intercalate (fileLines_ne_nil _ _)]
  · rw [run_fileWrites, rows_render h]
  · obtain ⟨row, -, hrow, hi⟩ := hk.literals s hs
    exact inline_literal_iff.mp fun c hm => hrow c (hi.subset hm)
  · exact keepsLines_of_inline h (inline_row h hc)

theorem keepsLines_quotingOrders :
    (∀ name ∈ Sample.quotingOrdersPlan.names, Inline name) ∧
      KeepsLines { document := true } Sample.quotingOrdersPlan := by
  have hn : ∀ name ∈ Sample.quotingOrdersPlan.names, Inline name := by decide +kernel
  have hs : ∀ s ∈ Sample.quotingOrdersPlan.texts, s.toList.all (· ∉ unescaped) := by
    decide +kernel
  obtain ⟨-, -, -, -, hk⟩ := render_newLines { document := true } Sample.quotingOrdersPlan hn
  exact ⟨hn, hk.mpr fun s hm => by simpa using hs s hm⟩

/-- A table whose name has the new-line characters that literals leave as they are. -/
theorem not_keepsLines_brokenOrders :
    (∀ name ∈ Sample.brokenOrdersPlan.names, Inline name) ∧
      ¬KeepsLines { singleFile := true } Sample.brokenOrdersPlan := by
  refine ⟨by decide +kernel, fun hk => ?_⟩
  have hm : '\u2028' ∈ (render { singleFile := true } Sample.brokenOrdersPlan).toList := by
    decide +kernel
  exact absurd (hk.feeds _ hm (by decide)) (by decide)

end Rows

end SourceText

end EntityMapping
