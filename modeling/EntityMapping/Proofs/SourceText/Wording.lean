import EntityMapping.Proofs.SourceText.Nesting

/-! # The wording of lines

Apart from its indentation, a line of a file is empty, a comment, the title of a group, a using
directive or other code. Such code begins with one of a few words, unless it is the call that a
property has for one of its directives.
-/

namespace EntityMapping.SourceText

def lineStarts : List String :=
  ["namespace ", "internal class ", "public ", "\x7b", "\x7d", "builder.", ".With", ".HasForeignKey",
   ".OnDelete(", ".HasConstraintName(", ".HasDatabaseName(", ".HasFilter(", ".IsUnique(", ".HasName("]

/-- The texts that the lines of a file may have. -/
inductive Worded (style : Style) (plan : MappingPlan) : String → Prop
  | blank : Worded style plan ""
  | comment (text : String) : style.document = true → Worded style plan ("/// " ++ text)
  | title (g : Section) : Worded style plan ("// " ++ g.title)
  | importing {name : String} : name ∈ (Usings.ofList (requiredNamespaces plan)).ordered →
      Worded style plan (Usings.directive name)
  | code (start : String) {text : String} : start ∈ lineStarts →
      start.toList <+: text.toList → Worded style plan text
  | setting {name text : String} {directives : List Directive} {d : Directive} :
      .property name directives ∈ plan.statements → d ∈ directives →
      (directiveCall d).toList <+: text.toList → Worded style plan text

section Wording

variable {style : Style} {plan : MappingPlan} {s : Statement} {start text : String}

theorem prefix_toList_append (h : start.toList <+: text.toList) (rest : String) :
    start.toList <+: (text ++ rest).toList := by
  rw [String.toList_append]
  exact h.trans (List.prefix_append _ _)

theorem worded_firstCall (s : Statement) :
    Worded style plan (firstCall s) ∧ Worded style plan (firstCall s ++ ";") := by
  have hp : "builder.".toList <+: (firstCall s).toList := by
    cases s with
    | noKey => decide
    | _ => exact prefix_toList_append (prefix_toList_append (by decide) _) _
  exact ⟨.code "builder." (by simp [lineStarts]) hp,
    .code "builder." (by simp [lineStarts]) (prefix_toList_append hp _)⟩

theorem worded_laterCall {call : String} (hs : s ∈ plan.statements)
    (hc : call ∈ laterCalls plan.entityClass s) (hp : call.toList <+: text.toList) :
    Worded style plan text := by
  have hstart : ∀ start ∈ lineStarts, start.toList <+: call.toList → Worded style plan text :=
    fun start hm h => .code start hm (h.trans hp)
  cases s with
  | table | view | noKey | key => cases hc
  | property name directives =>
    obtain ⟨d, hd, rfl⟩ := List.mem_map.mp hc
    exact .setting hs hd hp
  | relationship r =>
    have hwith : ".With".toList <+: (inverseCall r.cardinality).toList := by
      cases r.cardinality <;> decide
    simp only [laterCalls, relationshipCalls, List.cons_append, List.nil_append,
      List.mem_cons] at hc
    rcases hc with rfl | rfl | rfl | hc
    · refine hstart ".With" (by simp [lineStarts]) ?_
      exact prefix_toList_append (prefix_toList_append (prefix_toList_append hwith _) _) _
    · refine hstart ".HasForeignKey" (by simp [lineStarts]) ?_
      simp only [String.append_assoc]
      exact prefix_toList_append List.prefix_rfl _
    · exact hstart ".OnDelete(" (by simp [lineStarts]) (by decide)
    · cases hn : r.constraintName with
      | none => simp [hn] at hc
      | some name =>
        obtain rfl : call = ".HasConstraintName(" ++ literal name ++ ")" := by simpa [hn] using hc
        refine hstart ".HasConstraintName(" (by simp [lineStarts]) ?_
        exact prefix_toList_append (prefix_toList_append List.prefix_rfl _) _
  | index i =>
    rw [laterCalls, ← render_indexSettings] at hc
    have hcall : ∀ method argument,
        ("." ++ method ++ "(").toList <+: (Call.render ⟨method, argument⟩).toList :=
      fun _ _ => prefix_toList_append (prefix_toList_append List.prefix_rfl _) _
    obtain ⟨c, hm, rfl⟩ := List.mem_map.mp hc
    simp only [indexSettings, List.mem_append, List.mem_map, Option.mem_toList] at hm
    rcases hm with (⟨name, -, rfl⟩ | ⟨filter, -, rfl⟩) | hm
    · refine hstart ".HasDatabaseName(" (by simp [lineStarts]) (.trans ?_ (hcall _ _))
      decide
    · refine hstart ".HasFilter(" (by simp [lineStarts]) (.trans ?_ (hcall _ _))
      decide
    · split at hm
      · obtain rfl := List.mem_singleton.mp hm
        exact hstart ".IsUnique(" (by simp [lineStarts]) (by decide)
      · cases hm
  | alternateKey columns name =>
    obtain rfl := List.mem_singleton.mp hc
    refine hstart ".HasName(" (by simp [lineStarts]) ?_
    exact prefix_toList_append (prefix_toList_append List.prefix_rfl _) _

theorem worded_statementLines (h : s ∈ plan.statements) :
    ∀ l ∈ statementLines plan.entityClass s, Worded style plan l.text := by
  rw [statementLines_eq_chain]
  refine forall_mem_chain (worded_firstCall s) fun call hc => ⟨?_, ?_⟩
  · exact worded_laterCall h hc List.prefix_rfl
  · exact worded_laterCall h hc (prefix_toList_append List.prefix_rfl _)

theorem worded_comments (texts : List String) :
    ∀ l ∈ style.comments texts, Worded style plan l.text := by
  unfold Style.comments
  split
  next h => exact List.forall_mem_map.mpr fun text _ => .comment text h
  next => exact nofun

theorem worded_bodyLines {statements : List Statement} (h : ∀ s ∈ statements, s ∈ plan.statements)
    (previous : Option Section) :
    ∀ l ∈ bodyLines plan.entityClass previous statements, Worded style plan l.text := by
  induction statements generalizing previous with
  | nil => exact nofun
  | cons s statements ih =>
    obtain ⟨hs, hss⟩ := List.forall_mem_cons.mp h
    have hhead : ∀ l ∈ headingLines previous s.group, Worded style plan l.text := by
      unfold headingLines
      split_ifs <;> simp [blankLine, line, Worded.blank, Worded.title]
    rw [bodyLines_cons, List.forall_mem_append, List.forall_mem_append]
    exact ⟨hhead, worded_statementLines hs, ih hss _⟩

theorem worded_constant (texts : List String) (name value : String) :
    ∀ l ∈ style.comments texts ++ [stringConstant name value], Worded style plan l.text := by
  refine List.forall_mem_append.mpr ⟨worded_comments texts, List.forall_mem_singleton.mpr ?_⟩
  refine .code "public " (by simp [lineStarts]) ?_
  simp [stringConstant, line]

theorem worded_block {ls : List Line} (start : String) (hs : start ∈ lineStarts) (hp : start.toList <+: text.toList)
    (h : ∀ l ∈ ls, Worded style plan l.text) :
    ∀ l ∈ line text :: braced ls, Worded style plan l.text := by
  have ho : Worded style plan "\x7b" := .code "\x7b" (by simp [lineStarts]) List.prefix_rfl
  have hc : Worded style plan "\x7d" := .code "\x7d" (by simp [lineStarts]) List.prefix_rfl
  exact List.forall_mem_cons.mpr ⟨.code start hs hp, forall_mem_braced.mpr ⟨ho, h, hc⟩⟩

theorem worded_constantsLines (constants : TableConstants) :
    ∀ l ∈ constantsLines style plan constants, Worded style plan l.text := by
  have htable : ∀ l ∈ tableStruct style plan constants, Worded style plan l.text := by
    rw [tableStruct_eq]
    refine worded_block "public " (by simp [lineStarts]) (by simp) ?_
    refine List.forall_mem_append.mpr ⟨List.forall_mem_flatMap.mpr fun schema _ => ?_, ?_⟩
    · exact worded_constant _ _ _
    · exact worded_constant _ _ _
  have hcolumns : ∀ l ∈ columnsStruct style plan constants, Worded style plan l.text :=
    worded_block "public " (by simp [lineStarts]) (by simp)
      (List.forall_mem_flatMap.mpr fun column _ => worded_constant _ _ _)
  exact List.forall_mem_append.mpr ⟨htable, List.forall_mem_cons.mpr ⟨.blank, hcolumns⟩⟩

theorem worded_classLines (style : Style) (plan : MappingPlan) :
    ∀ l ∈ classLines style plan, Worded style plan l.text := by
  have hbody : ∀ l ∈ bodyLines plan.entityClass none plan.statements, Worded style plan l.text :=
    worded_bodyLines (fun _ h => h) none
  have hconfigure : ∀ l ∈ configureLines style plan, Worded style plan l.text :=
    List.forall_mem_append.mpr ⟨worded_comments _,
      worded_block "public " (by simp [lineStarts]) (by simp) hbody⟩
  have hconstants : ∀ l ∈ constantsPart style plan plan.constants, Worded style plan l.text :=
    List.forall_mem_flatMap.mpr fun constants _ =>
      List.forall_mem_cons.mpr ⟨.blank, worded_constantsLines constants⟩
  rw [classLines_eq]
  refine List.forall_mem_append.mpr ⟨worded_comments _, ?_⟩
  exact worded_block "internal class " (by simp [lineStarts]) (by simp)
    (List.forall_mem_append.mpr ⟨hconfigure, hconstants⟩)

theorem worded_fileLines (style : Style) (h : Unbroken plan.entityNamespace) :
    ∀ l ∈ fileLines style plan, Worded style plan l.text := by
  have husings : ∀ l ∈ usingLines plan, Worded style plan l.text := by
    rw [usingLines_of_unbroken h]
    exact List.forall_mem_map.mpr fun name hn => .importing hn
  have hwithin : ∀ l ∈ withinNamespace plan (classLines style plan), Worded style plan l.text := by
    unfold withinNamespace
    split
    · exact worded_classLines style plan
    · exact worded_block "namespace " (by simp [lineStarts]) (by simp)
        (worded_classLines style plan)
  unfold fileLines
  split
  · exact worded_classLines style plan
  · exact List.forall_mem_append.mpr ⟨husings, List.forall_mem_cons.mpr ⟨.blank, hwithin⟩⟩

end Wording

/-! ## Rows without their indentation -/

section Rows

variable {style : Style} {plan : MappingPlan} {text : String} {c : Char} {k s t : List Char}

def unindented (row : String) : List Char := row.toList.dropWhile (· == ' ')

theorem Diverge.not_starts (h : Diverge k s) (hp : s <+: t) : ¬ k <+: t := by
  rintro ⟨x, rfl⟩
  obtain ⟨y, hy⟩ := hp
  exact h x y hy.symm

theorem unindented_render (l : Line) : unindented l.render = unindented l.text := by
  by_cases he : l.text = ""
  · rw [render_of_empty he, he]
  · rw [unindented, toList_render he]
    exact List.dropWhile_append_of_pos fun c hc => by simp [List.eq_of_mem_replicate hc]

theorem unindented_of_head (h : ∀ c ∈ text.toList.head?, c ≠ ' ') :
    unindented text = text.toList := by
  cases ht : text.toList with
  | nil => simp [unindented, ht]
  | cons c s =>
    have hc : c ≠ ' ' := h c (by simp [ht])
    simp [unindented, ht, hc]

theorem exists_directiveCall (d : Directive) : ∃ s, (directiveCall d).toList = '.' :: s := by
  rw [← render_directiveSetting, Call.toList_render]
  exact ⟨_, rfl⟩

theorem exists_lineStart {start : String} (h : start ∈ lineStarts) :
    ∃ c s, start.toList = c :: s ∧ c ≠ ' ' ∧ c ≠ '/' := by
  revert start
  simp [lineStarts]

theorem Worded.unindented (h : Worded style plan text) : unindented text = text.toList := by
  refine unindented_of_head fun c hc => ?_
  cases h with
  | blank => cases hc
  | comment | title | importing =>
    obtain rfl : _ = c := by simpa [Usings.directive] using hc
    decide
  | code start hm hp =>
    obtain ⟨d, s, he, hd, -⟩ := exists_lineStart hm
    obtain ⟨t, ht⟩ := hp
    obtain rfl : d = c := by simpa [← ht, he] using hc
    exact hd
  | @setting _ _ _ d _ _ hp =>
    obtain ⟨s, he⟩ := exists_directiveCall d
    obtain ⟨t, ht⟩ := hp
    obtain rfl : '.' = c := by simpa [← ht, he] using hc
    decide

/-- A line that begins unlike comments, titles and most code is a using directive or a setting. -/
theorem Worded.cases_of_start (h : Worded style plan text) (hk : k ≠ [])
    (hd : ∀ start ∈ "/// " :: "// " :: lineStarts, Diverge k start.toList) (hp : k <+: text.toList) :
    (∃ name ∈ (Usings.ofList (requiredNamespaces plan)).ordered, text = Usings.directive name) ∨
    ∃ name directives d, .property name directives ∈ plan.statements ∧ d ∈ directives ∧
      (directiveCall d).toList <+: text.toList := by
  have hne : ∀ start ∈ "/// " :: "// " :: lineStarts, ¬ start.toList <+: text.toList :=
    fun start hm hs => (hd start hm).not_starts hs hp
  cases h with
  | blank => exact (hk (List.prefix_nil.mp hp)).elim
  | comment => exact absurd (prefix_toList_append List.prefix_rfl _) (hne "/// " (by simp))
  | title => exact absurd (prefix_toList_append List.prefix_rfl _) (hne "// " (by simp))
  | importing hn => exact .inl ⟨_, hn, rfl⟩
  | code start hm hs => exact absurd hs (hne start (by simp [hm]))
  | setting hs hd hc => exact .inr ⟨_, _, _, hs, hd, hc⟩

theorem exists_worded {row : String} (h : ∀ name ∈ plan.names, Unbroken name)
    (hr : row ∈ rows (render style plan)) :
    ∃ text, Worded style plan text ∧ unindented row = text.toList := by
  rw [render, rows_renderLines (oneLine_fileLines h)] at hr
  rcases List.mem_append.mp hr with hr | hr
  · obtain ⟨l, hl, rfl⟩ := List.mem_map.mp hr
    have hw : Worded style plan l.text :=
      worded_fileLines style (h _ (by simp [MappingPlan.names])) l hl
    exact ⟨l.text, hw, (unindented_render l).trans hw.unindented⟩
  · obtain rfl := List.mem_singleton.mp hr
    exact ⟨"", .blank, rfl⟩

end Rows

end EntityMapping.SourceText
