import EntityMapping.Proofs.SourceText.Brackets

/-! # Writing with a current level

A class can be written line by line, with a level that is raised before the lines of a block and
lowered after them. Lowering stops at the outermost level, which would hide a block that is left
more often than entered. This never happens: the lines come out as they are laid out as a whole,
and whatever has been raised has been lowered at the end.
-/

namespace EntityMapping.SourceText

theorem append_cons_cases {α : Type} {as bs before after : List α} {b : α}
    (h : as ++ bs = before ++ b :: after) :
    (∃ rest, as = before ++ b :: rest) ∨
      ∃ rest, before = as ++ rest ∧ bs = rest ++ b :: after := by
  obtain h | ⟨rest, rfl, hrest⟩ := List.append_eq_append_iff.mp h
  · exact .inr h
  · cases rest with
    | nil => exact .inr ⟨[], by simp, hrest.symm⟩
    | cons c rest =>
      obtain ⟨rfl, -⟩ := List.cons.inj hrest
      exact .inl ⟨rest, rfl⟩

inductive Write where
  | text (s : String)
  | indent
  | outdent
  deriving DecidableEq, Repr

/-- The lines written so far and the level of the next one. -/
structure Writer where
  lines : List Line := []
  level : Nat := 0
  deriving DecidableEq, Repr

namespace Writer

def write : Writer → Write → Writer
  | w, .text s => { w with lines := w.lines ++ [⟨w.level, s⟩] }
  | w, .indent => { w with level := w.level + 1 }
  | w, .outdent => { w with level := w.level - 1 }

def run (w : Writer) (ws : List Write) : Writer := ws.foldl write w

theorem run_cons (w : Writer) (v : Write) (ws : List Write) :
    w.run (v :: ws) = (w.write v).run ws := rfl

theorem run_append (w : Writer) (ws vs : List Write) : w.run (ws ++ vs) = (w.run ws).run vs :=
  List.foldl_append

/-- The lines with line feeds between them and one at the end. -/
def finish (w : Writer) : String := "\n".intercalate (w.lines.map Line.render) ++ "\n"

end Writer

/-! ## The writes of a class -/

def nested (ws : List Write) : List Write := .indent :: (ws ++ [.outdent])

def bracedWrites (ws : List Write) : List Write :=
  .text "\x7b" :: nested ws ++ [.text "\x7d"]

def plainWrites (ls : List Line) : List Write := ls.map fun l => .text l.text

def chainWrites (head : String) : List String → List Write
  | [] => [.text (head ++ ";")]
  | calls => .text head :: nested (plainWrites (callLines calls))

def bodyWrites (entityClass : String) : Option Section → List Statement → List Write
  | _, [] => []
  | previous, s :: rest =>
    plainWrites (headingLines previous s.group) ++
      chainWrites (firstCall s) (laterCalls entityClass s) ++
      bodyWrites entityClass (some s.group) rest

section Writes

variable (style : Style) (plan : MappingPlan)

def configureWrites : List Write :=
  plainWrites (style.comments
    (summary ("Configures the entity of type " ++ seeAlso (qualifiedEntity plan)) ++
      ["<param name=\"builder\">The builder to be used to configure the entity type.</param>"])) ++
  .text ("public void Configure(EntityTypeBuilder<" ++ plan.entityClass ++ "> builder)") ::
  bracedWrites (bodyWrites plan.entityClass none plan.statements)

def constantsWrites (constants : TableConstants) : List Write :=
  .text "public struct Table" :: bracedWrites (plainWrites
    (schemaConstant style plan constants.schema ++ nameConstant style plan constants.name)) ++
  .text "" :: .text "public struct Columns" ::
  bracedWrites (plainWrites (constants.columns.flatMap (columnLines style plan)))

def classWrites : List Write :=
  plainWrites (style.comments
    (summary ("Allows configuration for an entity type " ++ seeAlso (qualifiedEntity plan)))) ++
  .text ("internal class " ++ plan.mappingClass ++ " : IEntityTypeConfiguration<" ++
    plan.entityClass ++ ">") ::
  bracedWrites (configureWrites style plan ++
    plan.constants.toList.flatMap fun constants =>
      .text "" :: constantsWrites style plan constants)

def fileWrites : List Write :=
  if style.singleFile then classWrites style plan
  else plainWrites (usingLines plan) ++ .text "" ::
    if plan.mappingNamespace.isEmpty then classWrites style plan
    else .text ("namespace " ++ plan.mappingNamespace) :: bracedWrites (classWrites style plan)

end Writes

/-! ## What is written -/

variable {ws vs : List Write} {ls as bs : List Line}

/-- Written at any level, the lines come out as far in from there as they are given, and the writer
is left at that level, below which it has never been. -/
structure Produces (ws : List Write) (ls : List Line) : Prop where
  run : ∀ w : Writer, w.run ws =
    ⟨w.lines ++ ls.map fun l => { l with level := l.level + w.level }, w.level⟩
  above : ∀ (w : Writer) (before after : List Write), ws = before ++ .outdent :: after →
    w.level < (w.run before).level

namespace Produces

theorem nil : Produces [] [] where
  run w := by simp [Writer.run]
  above w before after h := by simp at h

theorem text (s : String) : Produces [.text s] [line s] where
  run w := by simp [Writer.run, Writer.write, line]
  above w before after h := by
    cases before with
    | nil => cases h
    | cons b before => simp at h

theorem append (h : Produces ws as) (h' : Produces vs bs) : Produces (ws ++ vs) (as ++ bs) where
  run w := by
    rw [Writer.run_append, h.run, h'.run]
    simp
  above w before after he := by
    obtain ⟨rest, rfl⟩ | ⟨rest, rfl, hvs⟩ := append_cons_cases he
    · exact h.above w before rest rfl
    · have hl : (w.run ws).level = w.level := by rw [h.run]
      rw [Writer.run_append, ← hl]
      exact h'.above _ rest after hvs

theorem nested (h : Produces ws ls) : Produces (nested ws) (indent ls) where
  run w := by
    rw [SourceText.nested, Writer.run_cons, Writer.run_append, h.run]
    simp [Writer.run, Writer.write, indent, Line.indent, Function.comp_def, Nat.add_assoc,
      Nat.add_comm 1]
  above w before after he := by
    cases before with
    | nil => cases he
    | cons b before =>
      obtain ⟨rfl, hrest⟩ := List.cons.inj he
      rw [Writer.run_cons]
      obtain ⟨rest, rfl⟩ | ⟨rest, rfl, hlast⟩ := append_cons_cases hrest
      · exact (Nat.lt_succ_self _).trans (h.above (w.write .indent) before rest rfl)
      · -- What is lowered at the end has been raised at the beginning.
        have hr : rest = [] := by
          cases rest with
          | nil => rfl
          | cons _ rest => simp at hlast
        rw [hr, List.append_nil, h.run]
        exact Nat.lt_succ_self _

theorem cons (s : String) (h : Produces ws ls) : Produces (.text s :: ws) (line s :: ls) :=
  (Produces.text s).append h

theorem braced (h : Produces ws ls) : Produces (bracedWrites ws) (braced ls) :=
  ((Produces.text "\x7b").append h.nested).append (Produces.text "\x7d")

theorem plain (h : ∀ l ∈ ls, l.level = 0) : Produces (plainWrites ls) ls := by
  induction ls with
  | nil => exact Produces.nil
  | cons l ls ih =>
    obtain ⟨hl, hls⟩ := List.forall_mem_cons.mp h
    have he : line l.text = l := by
      obtain ⟨level, text⟩ := l
      cases hl
      rfl
    have hp := (ih hls).cons l.text
    rwa [he] at hp

theorem flatMap {α : Type} {f : α → List Write} {g : α → List Line}
    (h : ∀ a, Produces (f a) (g a)) (as : List α) : Produces (as.flatMap f) (as.flatMap g) := by
  induction as with
  | nil => exact Produces.nil
  | cons a as ih => exact (h a).append ih

end Produces

section Levels

variable {style : Style} {plan : MappingPlan}

theorem level_comments (texts : List String) : ∀ l ∈ style.comments texts, l.level = 0 := by
  unfold Style.comments
  split_ifs <;> simp [line]

theorem level_callLines (calls : List String) : ∀ l ∈ callLines calls, l.level = 0 := by
  induction calls with
  | nil => exact nofun
  | cons call calls ih =>
    cases calls with
    | nil => simp [callLines, line]
    | cons next calls => exact List.forall_mem_cons.mpr ⟨rfl, ih⟩

theorem level_headingLines (previous : Option Section) (g : Section) :
    ∀ l ∈ headingLines previous g, l.level = 0 := by
  unfold headingLines
  split_ifs <;> simp [blankLine, line]

theorem level_tableConstant (title name value : String) :
    ∀ l ∈ tableConstant style plan title name value, l.level = 0 :=
  List.forall_mem_append.mpr ⟨level_comments _, List.forall_mem_singleton.mpr rfl⟩

theorem level_schemaConstant (schema : Option String) :
    ∀ l ∈ schemaConstant style plan schema, l.level = 0 :=
  List.forall_mem_flatMap.mpr fun value _ => level_tableConstant _ _ value

theorem level_columnLines (column : String × String) :
    ∀ l ∈ columnLines style plan column, l.level = 0 :=
  List.forall_mem_append.mpr ⟨level_comments _, List.forall_mem_singleton.mpr rfl⟩

theorem level_usingLines : ∀ l ∈ usingLines plan, l.level = 0 := by
  simp [usingLines, line]

end Levels

section Produced

variable {style : Style} {plan : MappingPlan} {head entityClass : String} {calls : List String}

theorem produces_chain : Produces (chainWrites head calls) (chain head calls) := by
  cases calls with
  | nil => exact Produces.text _
  | cons call calls => exact (Produces.plain (level_callLines _)).nested.cons head

theorem produces_bodyWrites (previous : Option Section) (statements : List Statement) :
    Produces (bodyWrites entityClass previous statements)
      (bodyLines entityClass previous statements) := by
  induction statements generalizing previous with
  | nil => exact Produces.nil
  | cons s statements ih =>
    rw [bodyLines_cons, statementLines_eq_chain, ← List.append_assoc]
    exact ((Produces.plain (level_headingLines _ _)).append produces_chain).append (ih _)

theorem produces_configureWrites :
    Produces (configureWrites style plan) (configureLines style plan) :=
  (Produces.plain (level_comments _)).append ((produces_bodyWrites none _).braced.cons _)

theorem produces_constantsWrites (constants : TableConstants) :
    Produces (constantsWrites style plan constants) (constantsLines style plan constants) := by
  have ht : ∀ l ∈ schemaConstant style plan constants.schema ++
      nameConstant style plan constants.name, l.level = 0 :=
    List.forall_mem_append.mpr ⟨level_schemaConstant _, level_tableConstant _ _ _⟩
  have hc : ∀ l ∈ constants.columns.flatMap (columnLines style plan), l.level = 0 :=
    List.forall_mem_flatMap.mpr fun column _ => level_columnLines column
  rw [constantsLines, tableStruct_eq]
  exact ((Produces.plain ht).braced.cons _).append (((Produces.plain hc).braced.cons _).cons "")

theorem produces_classWrites : Produces (classWrites style plan) (classLines style plan) := by
  have hc : Produces
      (plan.constants.toList.flatMap fun constants =>
        .text "" :: constantsWrites style plan constants)
      (constantsPart style plan plan.constants) :=
    Produces.flatMap (fun constants => (produces_constantsWrites constants).cons "") _
  rw [classLines_eq]
  exact (Produces.plain (level_comments _)).append
    ((produces_configureWrites.append hc).braced.cons _)

theorem produces_fileWrites (style : Style) (plan : MappingPlan) :
    Produces (fileWrites style plan) (fileLines style plan) := by
  have hc : Produces (classWrites style plan) (classLines style plan) := produces_classWrites
  unfold fileWrites fileLines withinNamespace
  split
  · exact hc
  · refine (Produces.plain level_usingLines).append (Produces.cons "" ?_)
    split
    · exact hc
    · exact hc.braced.cons _

theorem run_fileWrites (style : Style) (plan : MappingPlan) :
    Writer.run {} (fileWrites style plan) = ⟨fileLines style plan, 0⟩ := by
  simpa using (produces_fileWrites style plan).run {}

end Produced

end EntityMapping.SourceText
