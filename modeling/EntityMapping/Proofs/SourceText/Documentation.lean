import EntityMapping.Proofs.SourceText.Wording

/-! # Documentation comments

Documentation stands in lines of its own, between lines of code that are the same without it. No
line of code begins as documentation does, so that a file without documentation is what is left of
the documented one when these lines are deleted.
-/

namespace EntityMapping

namespace SourceText

/-- A row that begins with three slashes, apart from blanks. -/
def IsDocumentation (row : String) : Prop := "///".toList <+: unindented row

instance (row : String) : Decidable (IsDocumentation row) :=
  inferInstanceAs (Decidable ("///".toList <+: unindented row))

/-- A text without its rows of documentation. -/
def undocumented (text : String) : String :=
  "\n".intercalate ((rows text).filter fun row => ¬ IsDocumentation row)

section Rows

variable {l : Line} {text : String}

theorem intercalate_rows (text : String) : "\n".intercalate (rows text) = text := by
  have hfeed : "\n".toList = ['\n'] := by decide
  have hrow : String.toList ∘ String.ofList = id := funext fun _ => String.toList_ofList
  rw [← String.toList_inj, String.toList_intercalate, rows, List.map_map, hfeed, hrow, List.map_id]
  exact List.intercalate_splitOn '\n'

theorem isDocumentation_render : IsDocumentation l.render ↔ IsDocumentation l.text := by
  rw [IsDocumentation, IsDocumentation, unindented_render]

theorem isDocumentation_comment (text : String) : IsDocumentation ("/// " ++ text) := by
  have hu : unindented ("/// " ++ text) = ("/// " ++ text).toList := unindented_of_head (by simp)
  rw [IsDocumentation, hu]
  exact prefix_toList_append (by decide) text

theorem Worded.not_isDocumentation {style : Style} {plan : MappingPlan}
    (h : Worded style plan text) (hs : style.document = false) : ¬ IsDocumentation text := by
  rw [IsDocumentation, h.unindented]
  cases h with
  | blank => decide
  | comment text hd => simp [hs] at hd
  | title g => cases g <;> decide
  | importing => simp [Usings.directive]
  | code start hm hp =>
    have hd : ∀ start ∈ lineStarts, Diverge "///".toList start.toList := by decide
    exact (hd start hm).not_starts hp
  | @setting _ _ _ d _ _ hp =>
    obtain ⟨s, he⟩ := exists_directiveCall d
    rw [he] at hp
    refine Diverge.not_starts (fun x y hxy => ?_) hp
    simp at hxy

end Rows

/-- The lines of code are the same in both lists, and all other lines of the second one are
documentation. -/
inductive Documented : List Line → List Line → Prop
  | nil : Documented [] []
  | code (l : Line) {as bs : List Line} : Documented as bs → Documented (l :: as) (l :: bs)
  | comment {l : Line} {as bs : List Line} : IsDocumentation l.text → Documented as bs →
      Documented as (l :: bs)

namespace Documented

variable {as bs cs ds : List Line}

theorem refl (ls : List Line) : Documented ls ls := by
  induction ls with
  | nil => exact .nil
  | cons l ls ih => exact .code l ih

theorem append (h : Documented as bs) (h' : Documented cs ds) :
    Documented (as ++ cs) (bs ++ ds) := by
  induction h with
  | nil => exact h'
  | code l _ ih => exact .code l ih
  | comment hl _ ih => exact .comment hl ih

theorem indent (h : Documented as bs) : Documented (indent as) (indent bs) := by
  induction h with
  | nil => exact .nil
  | code l _ ih => exact .code l.indent ih
  | comment hl _ ih => exact .comment hl ih

theorem block (head : String) (h : Documented as bs) :
    Documented (line head :: braced as) (line head :: braced bs) :=
  .code _ (.code _ (h.indent.append (refl _)))

theorem flatMap {α : Type} {f g : α → List Line} (h : ∀ x, Documented (f x) (g x)) (xs : List α) :
    Documented (xs.flatMap f) (xs.flatMap g) := by
  induction xs with
  | nil => exact .nil
  | cons x xs ih => exact (h x).append ih

theorem filter_rows (h : Documented as bs) (ha : ∀ l ∈ as, ¬ IsDocumentation l.text) :
    (bs.map Line.render).filter (fun row => ¬ IsDocumentation row) = as.map Line.render := by
  induction h with
  | nil => rfl
  | code l _ ih =>
    obtain ⟨hl, has⟩ := List.forall_mem_cons.mp ha
    have hr : ¬ IsDocumentation l.render := isDocumentation_render.not.mpr hl
    rw [List.map_cons, List.filter_cons_of_pos (by simpa using hr), ih has, List.map_cons]
  | comment hl _ ih =>
    have hr : IsDocumentation (Line.render _) := isDocumentation_render.mpr hl
    rw [List.map_cons, List.filter_cons_of_neg (by simpa using hr), ih ha]

end Documented

section Files

variable {bare full : Style} {plan : MappingPlan}

theorem documented_comments (hb : bare.document = false) (hf : full.document = true)
    (texts : List String) : Documented (bare.comments texts) (full.comments texts) := by
  simp only [Style.comments, hb, hf, Bool.false_eq_true, if_false, if_true]
  induction texts with
  | nil => exact .nil
  | cons text texts ih => exact .comment (isDocumentation_comment text) ih

theorem documented_constantsPart (hb : bare.document = false) (hf : full.document = true)
    (constants : Option TableConstants) :
    Documented (constantsPart bare plan constants) (constantsPart full plan constants) := by
  have hconstant : ∀ texts name value, Documented
      (bare.comments texts ++ [stringConstant name value])
      (full.comments texts ++ [stringConstant name value]) :=
    fun texts _ _ => (documented_comments hb hf texts).append (.refl _)
  refine .flatMap (fun constants => .code _ ?_) _
  unfold constantsLines
  rw [tableStruct_eq, tableStruct_eq]
  refine .append (.block _ (.append ?_ ?_)) (.code _ (.block _ ?_))
  · exact .flatMap (fun schema => hconstant _ _ _) _
  · exact hconstant _ _ _
  · exact .flatMap (fun column => hconstant _ _ _) _

theorem documented_classLines (hb : bare.document = false) (hf : full.document = true) :
    Documented (classLines bare plan) (classLines full plan) := by
  have hconfigure : Documented (configureLines bare plan) (configureLines full plan) :=
    (documented_comments hb hf _).append (.refl _)
  rw [classLines_eq, classLines_eq]
  refine (documented_comments hb hf _).append (.block _ ?_)
  exact hconfigure.append (documented_constantsPart hb hf _)

theorem documented_fileLines (hb : bare.document = false) (hf : full.document = true)
    (hs : bare.singleFile = full.singleFile) :
    Documented (fileLines bare plan) (fileLines full plan) := by
  have hc : Documented (classLines bare plan) (classLines full plan) := documented_classLines hb hf
  unfold fileLines
  rw [hs]
  split
  · exact hc
  · refine (Documented.refl _).append (.code _ ?_)
    unfold withinNamespace
    split
    · exact hc
    · exact .block _ hc

/-- Without its rows of documentation, a documented class is the class that is written without
documentation, in a file of its own as in a shared one. -/
theorem undocumented_render (style : Style) (plan : MappingPlan)
    (h : ∀ name ∈ plan.names, Unbroken name) :
    undocumented (render { style with document := true } plan) =
      render { style with document := false } plan := by
  have hn : Unbroken plan.entityNamespace := h _ (by simp [MappingPlan.names])
  have hd : Documented (fileLines { style with document := false } plan)
      (fileLines { style with document := true } plan) := documented_fileLines rfl rfl rfl
  have hcode : ∀ l ∈ fileLines { style with document := false } plan, ¬ IsDocumentation l.text :=
    fun l hl => (worded_fileLines _ hn l hl).not_isDocumentation rfl
  have hrows : (rows (render { style with document := true } plan)).filter
      (fun row => ¬ IsDocumentation row) = rows (render { style with document := false } plan) := by
    rw [render, render, rows_renderLines (oneLine_fileLines h), rows_renderLines (oneLine_fileLines h),
      List.filter_append, hd.filter_rows hcode]
    rfl
  rw [undocumented, hrows, intercalate_rows]

open Sample in
theorem undocumented_render_shopOrders :
    (∀ name ∈ shopOrdersPlan.names, Unbroken name) ∧
      (∃ row ∈ rows (render { document := true } shopOrdersPlan), IsDocumentation row) ∧
      undocumented (render { document := true } shopOrdersPlan) = render {} shopOrdersPlan := by
  have hn : ∀ name ∈ shopOrdersPlan.names, Unbroken name := by
    unfold Unbroken
    decide +kernel
  have hl : (⟨1, "/// " ++ "<summary>"⟩ : Line) ∈ fileLines { document := true } shopOrdersPlan := by
    decide +kernel
  have hr : (⟨1, "/// " ++ "<summary>"⟩ : Line).render ∈
      rows (render { document := true } shopOrdersPlan) := by
    rw [render, rows_renderLines (oneLine_fileLines hn)]
    exact List.mem_append_left _ (List.mem_map_of_mem hl)
  have hd : IsDocumentation (⟨1, "/// " ++ "<summary>"⟩ : Line).render :=
    isDocumentation_render.mpr (isDocumentation_comment "<summary>")
  exact ⟨hn, ⟨_, hr, hd⟩, undocumented_render {} shopOrdersPlan hn⟩

end Files

end SourceText

end EntityMapping
