import EntityMapping.Proofs.Plan.Arrangement
import EntityMapping.Proofs.SourceText.ClassBody
import Mathlib.Data.List.FinRange

/-! # Sections of a class

The statements of a class stand one after the other with an empty line between each two of them.
Where the first statement of a section comes, or one of another section than before, a comment
announces it. The plan of an entity has the statements of a section together, so that no section is
announced twice.
-/

namespace EntityMapping

theorem Section.title_injective : Function.Injective Section.title := by
  intro g g'
  cases g <;> cases g' <;> decide

namespace SourceText

variable {ss : List Statement} {entityClass : String} {n : Nat}

/-- The statement is the first one, or follows one of another group. -/
def Opens (ss : List Statement) (i : Fin ss.length) : Prop :=
  ∀ j : Fin ss.length, j.val + 1 = i.val → ss[j].group ≠ ss[i].group

instance (ss : List Statement) (i : Fin ss.length) : Decidable (Opens ss i) :=
  inferInstanceAs (Decidable (∀ j : Fin ss.length, j.val + 1 = i.val → ss[j].group ≠ ss[i].group))

/-- The titles that are announced, in the order of the statements. -/
def announced (ss : List Statement) : List String :=
  ((List.finRange ss.length).filter fun i => Opens ss i).map fun i => ss[i].group.title

def announcement (n : Nat) (g : Section) : List Char :=
  margin n ++ ("// ".toList ++ (g.title.toList ++ ['\n']))

/-- A statement with the announcement of its group before it, if it opens one. -/
def piece (entityClass : String) (n : Nat) (ss : List Statement) (i : Fin ss.length) : List Char :=
  (if Opens ss i then announcement n ss[i].group else []) ++
    charsAt n (statementLines entityClass ss[i])

def pieceAfter (entityClass : String) (n : Nat) (previous : Option Section) (s : Statement) :
    List Char :=
  (if previous = some s.group then [] else announcement n s.group) ++
    charsAt n (statementLines entityClass s)

theorem charsAt_bodyLines (previous : Option Section) (ss : List Statement) :
    charsAt n (bodyLines entityClass previous ss) =
      (if previous.isSome ∧ ss ≠ [] then ['\n'] else []) ++
        ['\n'].intercalate (List.zipWith (pieceAfter entityClass n)
          (previous :: ss.map fun s => some s.group) ss) := by
  induction ss generalizing previous with
  | nil => simp [bodyLines]
  | cons s ss ih =>
    have hhead : charsAt n (headingLines previous s.group) =
        (if previous.isSome then ['\n'] else []) ++
          if previous = some s.group then [] else announcement n s.group := by
      unfold headingLines
      split_ifs <;> simp [charsAt_title, announcement]
    have hbody : charsAt n (bodyLines entityClass (some s.group) ss) =
        (if ss = [] then [] else ['\n']) ++ ['\n'].intercalate (List.zipWith
          (pieceAfter entityClass n) (some s.group :: ss.map fun s => some s.group) ss) := by
      rw [ih]
      split_ifs <;> simp_all
    rw [bodyLines_cons, charsAt_append, charsAt_append, hhead, hbody]
    cases ss with
    | nil => simp [pieceAfter]
    | cons t ss => simp [pieceAfter]

theorem opens_zero (h : 0 < ss.length) : Opens ss ⟨0, h⟩ := fun _ hj => (Nat.succ_ne_zero _ hj).elim

theorem opens_succ_iff {i : Nat} (h : i + 1 < ss.length) :
    Opens ss ⟨i + 1, h⟩ ↔ ss[i].group ≠ ss[i + 1].group := by
  constructor
  · exact fun ho => ho ⟨i, by omega⟩ rfl
  · rintro hn ⟨j, hj⟩ hi
    obtain rfl : j = i := by simpa using hi
    exact hn

theorem charsAt_body (ss : List Statement) :
    charsAt n (bodyLines entityClass none ss) =
      ['\n'].intercalate (List.ofFn (piece entityClass n ss)) := by
  rw [charsAt_bodyLines]
  simp only [Option.isSome_none, Bool.false_eq_true, false_and, if_false, List.nil_append]
  refine congrArg _ (List.ext_getElem (by simp) fun i hi hi' => ?_)
  rw [List.getElem_zipWith, List.getElem_ofFn, pieceAfter, piece]
  cases i with
  | zero => simp [opens_zero]
  | succ i =>
    have hl : i + 1 < ss.length := by simpa using hi'
    simp [opens_succ_iff hl]

/-! ## Sections that stand together -/

/-- Between two statements of one group there is none of another. -/
def Contiguous (ss : List Statement) : Prop :=
  ∀ i j k : Fin ss.length, i ≤ j → j ≤ k → ss[i].group = ss[k].group → ss[j].group = ss[i].group

theorem exists_opens {i : Nat} (h : i < ss.length) :
    ∃ j : Fin ss.length, Opens ss j ∧ ss[j].group = ss[i].group := by
  induction i with
  | zero => exact ⟨⟨0, h⟩, opens_zero h, rfl⟩
  | succ i ih =>
    by_cases hg : ss[i].group = ss[i + 1].group
    · obtain ⟨j, ho, hj⟩ := ih (by omega)
      exact ⟨j, ho, hj.trans hg⟩
    · exact ⟨⟨i + 1, h⟩, (opens_succ_iff h).mpr hg, rfl⟩

theorem mem_announced_iff {g : Section} :
    g.title ∈ announced ss ↔ ∃ s ∈ ss, s.group = g := by
  simp only [announced, List.mem_map, List.mem_filter, List.mem_finRange, true_and,
    decide_eq_true_eq]
  constructor
  · rintro ⟨i, -, ht⟩
    exact ⟨ss[i], List.getElem_mem _, Section.title_injective ht⟩
  · rintro ⟨s, hs, rfl⟩
    obtain ⟨i, hi, rfl⟩ := List.mem_iff_getElem.mp hs
    obtain ⟨j, ho, hj⟩ := exists_opens hi
    exact ⟨j, ho, congrArg Section.title hj⟩

theorem Contiguous.le_of_opens (h : Contiguous ss) {i j : Fin ss.length} (ho : Opens ss j)
    (hg : ss[i].group = ss[j].group) : j ≤ i := by
  by_contra hlt
  obtain ⟨k, hk⟩ : ∃ k : Fin ss.length, k.val + 1 = j.val := ⟨⟨j - 1, by omega⟩, by simp; omega⟩
  have hik : i ≤ k := by omega
  have hkj : k ≤ j := by omega
  exact ho k hk ((h i k j hik hkj hg).trans hg)

theorem Contiguous.nodup_announced (h : Contiguous ss) : (announced ss).Nodup := by
  refine List.Nodup.map_on ?_ ((List.nodup_finRange _).filter _)
  intro i hi j hj ht
  have hoi : Opens ss i := by simpa using (List.mem_filter.mp hi).2
  have hoj : Opens ss j := by simpa using (List.mem_filter.mp hj).2
  have hg : ss[i].group = ss[j].group := Section.title_injective ht
  exact le_antisymm (h.le_of_opens hoi hg.symm) (h.le_of_opens hoj hg)

example : announced [.noKey, .table "Orders" none, .key ["Id"]] = ["key", "table", "key"] := by
  decide

theorem contiguous_of_pairwise {rank : Section → Nat} (hr : Function.Injective rank)
    (h : ss.Pairwise fun s t => rank s.group ≤ rank t.group) : Contiguous ss := by
  have hle : ∀ i j : Fin ss.length, i ≤ j → rank ss[i].group ≤ rank ss[j].group := by
    intro i j hij
    rcases hij.eq_or_lt with rfl | hlt
    · exact le_rfl
    · exact List.pairwise_iff_getElem.mp h i j i.isLt j.isLt hlt
  intro i j k hij hjk hg
  have hji : rank ss[j].group ≤ rank ss[i].group := by
    rw [hg]
    exact hle j k hjk
  exact hr (le_antisymm hji (hle i j hij))

end SourceText

/-! ## Sections of a plan -/

def Ordering.sections : Ordering → List Section
  | .propertiesFirst => [.table, .key, .properties, .relationships, .indexes, .alternateKeys]
  | .indexesFirst => [.table, .key, .indexes, .alternateKeys, .properties, .relationships]

namespace Emission

variable {em : Emission} {schema : Schema} {entity : Entity} {plan : MappingPlan}
  {parts : Section → List Statement}

theorem mem_sections (o : Ordering) (g : Section) : g ∈ o.sections := by
  cases o <;> cases g <;> decide

theorem Grouped.statements_eq_flatMap (hg : em.Grouped schema entity plan parts) :
    plan.statements = em.ordering.sections.flatMap parts := by
  rw [hg.statements]
  cases ho : em.ordering <;> simp [arrange, ho, Ordering.sections]

theorem contiguous_of_plan (h : em.plan schema entity = .ok plan) :
    SourceText.Contiguous plan.statements := by
  obtain ⟨parts, hg⟩ := exists_grouped h
  have hr : Function.Injective em.ordering.sections.idxOf := fun g g' he =>
    (List.idxOf_inj (mem_sections _ g)).mp he
  have ho : em.ordering.sections.Pairwise fun g g' =>
      em.ordering.sections.idxOf g ≤ em.ordering.sections.idxOf g' := by
    cases em.ordering <;> decide
  refine SourceText.contiguous_of_pairwise hr ?_
  rw [hg.statements_eq_flatMap, List.pairwise_flatMap]
  constructor
  · intro g _
    refine List.pairwise_of_forall_mem_list fun s hs t ht => ?_
    rw [hg.group_eq hs, hg.group_eq ht]
  · refine ho.imp fun {g g'} hle s hs t ht => ?_
    rwa [hg.group_eq hs, hg.group_eq ht]

end Emission

namespace SourceText

section Text

variable (style : Style) (plan : MappingPlan)

def configureHead : String :=
  "public void Configure(EntityTypeBuilder<" ++ plan.entityClass ++ "> builder)"

theorem exists_render_class : ∃ n before after,
    (render style plan).toList = before ++ (charsAt n (classLines style plan) ++ after) := by
  rw [render, toList_renderLines, chars_eq_charsAt]
  unfold fileLines withinNamespace
  split_ifs
  · exact ⟨0, [], [], by simp⟩
  · exact ⟨0, charsAt 0 (usingLines plan) ++ ['\n'], [], by simp⟩
  · rw [charsAt_append, charsAt_blankLine, charsAt_block (by simp)]
    exact ⟨1, charsAt 0 (usingLines plan) ++
      '\n' :: openingLines 0 ("namespace " ++ plan.mappingNamespace), closingLine 0, by simp⟩

theorem exists_render_configure : ∃ n before after,
    (render style plan).toList = before ++ (openingLines n (configureHead plan) ++
      (charsAt (n + 1) (bodyLines plan.entityClass none plan.statements) ++
        (closingLine n ++ after))) := by
  obtain ⟨n, before, after, h⟩ := exists_render_class style plan
  obtain ⟨front, hf⟩ : ∃ front,
      classOpening style plan n = front ++ openingLines (n + 1) (configureHead plan) := ⟨_, rfl⟩
  rw [h, charsAt_classLines, hf]
  exact ⟨n + 1, before ++ front,
    charsAt (n + 1) (constantsPart style plan plan.constants) ++ (closingLine n ++ after),
    by simp only [List.append_assoc]⟩

end Text

section Pieces

theorem remainder_suffix (s : Statement) : [';', '\n'] <:+ remainder entityClass n s := by
  have hclose : [';', '\n'] <:+ [')', ';', '\n'] := List.suffix_cons _ _
  have hchained : ∀ calls : List String,
      [';', '\n'] <:+ ')' :: (chained (n + 1) calls ++ [';', '\n']) := fun calls =>
    (List.suffix_append _ _).trans (List.suffix_cons _ _)
  cases s with
  | noKey => exact hclose
  | table | view | key => exact hclose.trans (List.suffix_append _ _)
  | property | relationship =>
    exact ((hchained _).trans (List.suffix_append _ _)).trans (List.suffix_append _ _)
  | index | alternateKey => exact (hchained _).trans (List.suffix_append _ _)

/-- A piece begins and ends with a line that is not empty: with an announcement or a call of the
builder, and with a semicolon. -/
theorem piece_ends (i : Fin ss.length) :
    (margin n ++ "// ".toList <+: piece entityClass n ss i ∨
      margin n ++ "builder.".toList <+: piece entityClass n ss i) ∧
    [';', '\n'] <:+ piece entityClass n ss i := by
  have hend : [';', '\n'] <:+ charsAt n (statementLines entityClass ss[i]) := by
    rw [charsAt_statementLines, ← List.append_assoc]
    exact (remainder_suffix _).trans (List.suffix_append _ _)
  refine ⟨?_, hend.trans (List.suffix_append _ _)⟩
  unfold piece
  split_ifs
  · refine .inl ?_
    rw [announcement, ← List.append_assoc, List.append_assoc]
    exact List.prefix_append _ _
  · have hb : margin n ++ "builder.".toList <+: charsAt n (statementLines entityClass ss[i]) ++ [] :=
      builder_prefix_statementLines ss[i]
    exact .inr (by simpa using hb)

end Pieces

/-- The statements of a plan are written between the braces of one method, in their order and with
an empty line between each two of them. A comment announces a section right before a statement that
is the first or follows one of another section. In the plan of an entity, whatever the order of its
groups, a section is announced once if it has a statement and not at all otherwise. -/
theorem render_sections (style : Style) (plan : MappingPlan) :
    (∃ n before after, (render style plan).toList =
      before ++ (openingLines n (configureHead plan) ++
        (['\n'].intercalate (List.ofFn (piece plan.entityClass (n + 1) plan.statements)) ++
          (closingLine n ++ after)))) ∧
    (∀ n i, (margin n ++ "// ".toList <+: piece plan.entityClass n plan.statements i ∨
        margin n ++ "builder.".toList <+: piece plan.entityClass n plan.statements i) ∧
      [';', '\n'] <:+ piece plan.entityClass n plan.statements i) ∧
    ∀ em schema entity, Emission.plan em schema entity = .ok plan →
      ∀ g : Section, (announced plan.statements).count g.title ≤ 1 ∧
        ((announced plan.statements).count g.title = 1 ↔ ∃ s ∈ plan.statements, s.group = g) := by
  refine ⟨?_, fun _ => piece_ends, fun em schema entity h g => ?_⟩
  · obtain ⟨n, before, after, h⟩ := exists_render_configure style plan
    rw [charsAt_body] at h
    exact ⟨n, before, after, h⟩
  · have hn : (announced plan.statements).Nodup := (Emission.contiguous_of_plan h).nodup_announced
    refine ⟨List.nodup_iff_count_le_one.mp hn _, ?_⟩
    rw [← mem_announced_iff]
    constructor
    · intro hc
      exact List.count_pos_iff.mp (hc ▸ Nat.one_pos)
    · exact List.count_eq_one_of_mem hn

end SourceText

namespace Sample

def indexesFirstPlan : MappingPlan :=
  { ordersPlan with
    statements := [
      .table "Orders" none,
      .key ["Id"],
      .index { columns := ["CustomerEntity", "Id"], name := some "IX_Lookup", unique := true },
      .alternateKey ["OrderDate"] "AK_Date",
      .property "Id" [.columnName "id"],
      .property "CustomerEntity" [.columnName "customer_id"],
      .relationship {
        navigation := "Customer"
        cardinality := .many
        principalNavigation := "Orders"
        foreignKey := ["Customer"] }] }

end Sample

namespace SourceText

open Sample in
theorem render_sections_indexesFirst :
    Emission.plan { emission with ordering := .indexesFirst } shop indexedOrders =
        .ok indexesFirstPlan ∧
      announced indexesFirstPlan.statements =
        ["table", "key", "indexes", "alternate keys", "properties", "relationships"] ∧
      (announced indexesFirstPlan.statements).count "properties" = 1 := by
  have h : Emission.plan { emission with ordering := .indexesFirst } shop indexedOrders =
      .ok indexesFirstPlan := by decide +kernel
  obtain ⟨-, -, hcount⟩ := render_sections {} indexesFirstPlan
  refine ⟨h, by decide, (hcount _ shop indexedOrders h .properties).2.mpr ?_⟩
  exact ⟨.property "Id" [.columnName "id"], by simp [indexesFirstPlan], rfl⟩

end SourceText

end EntityMapping
