import EntityMapping.Proofs.SourceText.Writer

/-! # The nesting of a class

The lines of a class are single lines that are balanced by themselves and blocks of further lines
between braces of their own, all of them further in than the braces. So the brackets of the text
are nested, and a line that is nothing but a closing brace closes the line that is nothing but an
opening one and stands as far in.
-/

namespace EntityMapping

namespace SourceText

def blanks (n : Nat) : String := String.ofList (List.replicate n ' ')

def width (row : String) : Nat := (row.toList.takeWhile (· == ' ')).length

/-- What stands before each line feed of a text, and after the last. -/
def rows (text : String) : List String := (text.toList.splitOnP (· == '\n')).map String.ofList

def unrows (rows : List String) : String := String.join (rows.map (· ++ "\n"))

/-- After these rows, a closing brace that stands that many blanks in closes the opening one of a
row in code that stands as far in. What lies between the two is balanced and further in. -/
def Closes (before : List String) (n : Nat) : Prop :=
  ∃ front inner, before = front ++ (blanks n ++ "\x7b") :: inner ∧
    (∃ due, Takes (unrows front) [] due) ∧ Balanced (unrows inner) ∧
    ∀ row ∈ inner, row = "" ∨ n < width row

/-- Lines that are balanced by themselves, and lines further in between two braces. -/
inductive Blocks : List Line → Prop
  | nil : Blocks []
  | text {l : Line} {ls : List Line} : Balanced (l.text ++ "\n") → Blocks ls → Blocks (l :: ls)
  | block {n : Nat} {inner ls : List Line} : Blocks inner → (∀ l ∈ inner, n < l.level) →
      Blocks ls → Blocks (⟨n, "\x7b"⟩ :: (inner ++ ⟨n, "\x7d"⟩ :: ls))

section Rows

variable {l : Line} {ls inner : List Line} {n m : Nat} {front before : List String} {s : String}

theorem balanced_blanks (n : Nat) : Balanced (blanks n) := by
  refine balanced_of_insignificant fun c hc => ?_
  rw [blanks, String.toList_ofList] at hc
  rw [List.eq_of_mem_replicate hc]
  decide

theorem render_eq (h : l.text ≠ "") : l.render = blanks (4 * l.level) ++ l.text := by
  rw [← String.toList_inj, toList_render h, String.toList_append, blanks, String.toList_ofList]

theorem rows_renderLines (h : OneLine ls) :
    rows (renderLines ls) = ls.map Line.render ++ [""] := by
  rw [rows, toList_renderLines]
  induction ls with
  | nil => rfl
  | cons l ls ih =>
    obtain ⟨hl, hls⟩ := oneLine_cons.mp h
    rw [splitOnP_chars_cons hl, List.map_cons, ih hls, String.ofList_toList]
    rfl

theorem unrows_render (ls : List Line) : unrows (ls.map Line.render) = renderLines ls := by
  rw [unrows, List.map_map]
  rfl

theorem unrows_append (as bs : List String) : unrows (as ++ bs) = unrows as ++ unrows bs := by
  simp [unrows, String.join_append]

theorem width_render (h : l.text ≠ "") : 4 * l.level ≤ width l.render := by
  rw [width, toList_render h, List.takeWhile_append_of_pos (by simp)]
  simp

theorem balanced_render (h : Balanced (l.text ++ "\n")) : Balanced (l.render ++ "\n") := by
  by_cases he : l.text = ""
  · rw [render_of_empty he]
    rwa [he] at h
  · rw [render_eq he, String.append_assoc]
    exact (balanced_blanks _).append h

theorem not_takes_closing (n : Nat) (s : String) (due : List Char) :
    ¬ Takes (blanks n ++ "\x7d" ++ s) [] due := by
  intro h
  have hb : Reader.read ⟨.code, []⟩ (blanks n).toList = some ⟨.code, []⟩ := balanced_blanks n
  have hc : Reader.read ⟨.code, []⟩ "\x7d".toList = none := by decide
  rw [Takes, String.toList_append, String.toList_append, Reader.read_append, Reader.read_append, hb,
    Option.bind_some, hc] at h
  cases h

theorem blanks_inj (h : blanks n ++ s = blanks m ++ s) : n = m := by
  have hl : (blanks n ++ s).length = (blanks m ++ s).length := by rw [h]
  simpa [blanks, String.length_append] using hl

end Rows

namespace Blocks

variable {ls as bs inner : List Line} {n : Nat} {due : List Char} {front before : List String}

theorem append (ha : Blocks as) (hb : Blocks bs) : Blocks (as ++ bs) := by
  induction ha with
  | nil => exact hb
  | text hl _ ih => exact .text hl ih
  | block hi hn _ _ ih =>
    rw [List.cons_append, List.append_assoc, List.cons_append]
    exact .block hi hn ih

theorem indent (h : Blocks ls) : Blocks (indent ls) := by
  induction h with
  | nil => exact .nil
  | text hl _ ih => exact .text hl ih
  | block hi hn _ ih ih' =>
    rw [SourceText.indent, List.map_cons, List.map_append, List.map_cons]
    refine .block ih (List.forall_mem_map.mpr fun l hl => ?_) ih'
    exact Nat.succ_lt_succ (hn l hl)

theorem braced (h : Blocks ls) : Blocks (braced ls) :=
  .block h.indent (List.forall_mem_map.mpr fun _ _ => Nat.succ_pos _) .nil

theorem cons {text : String} (ht : Balanced text) (h : Blocks ls) : Blocks (line text :: ls) :=
  .text (ht.append (by decide)) h

theorem flatMap {α : Type} {f : α → List Line} {xs : List α} (h : ∀ x ∈ xs, Blocks (f x)) :
    Blocks (xs.flatMap f) := by
  induction xs with
  | nil => exact .nil
  | cons x xs ih =>
    obtain ⟨hx, hxs⟩ := List.forall_mem_cons.mp h
    exact hx.append (ih hxs)

theorem takes_opening (n : Nat) : Takes ((⟨n, "\x7b"⟩ : Line).render ++ "\n") [] ['\x7d'] := by
  rw [render_eq (by simp), String.append_assoc]
  exact Takes.append (balanced_blanks _) (by decide : Takes ("\x7b" ++ "\n") [] ['\x7d'])

theorem takes_closing (n : Nat) : Takes ((⟨n, "\x7d"⟩ : Line).render ++ "\n") ['\x7d'] [] := by
  rw [render_eq (by simp), String.append_assoc]
  exact ((balanced_blanks _).takes _).append
    (by decide : Takes ("\x7d" ++ "\n") ['\x7d'] [])

theorem balanced (h : Blocks ls) : Balanced (renderLines ls) := by
  induction h with
  | nil => decide
  | text hl _ ih =>
    rw [renderLines_cons]
    exact (balanced_render hl).append ih
  | block _ _ _ ih ih' =>
    rw [renderLines_cons, renderLines_append, renderLines_cons, ← String.append_assoc,
      ← String.append_assoc]
    exact Takes.append (ih.between (takes_opening _) (takes_closing _)) ih'

end Blocks

section Closing

variable {ls inner : List Line} {n m : Nat} {due : List Char} {front before : List String}

theorem Closes.behind (h : Closes before n) (hf : Takes (unrows front) [] due) :
    Closes (front ++ before) n := by
  obtain ⟨front', inner, rfl, ⟨due', hd⟩, hi, hw⟩ := h
  refine ⟨front ++ front', inner, (List.append_assoc ..).symm, ⟨due' ++ due, ?_⟩, hi, hw⟩
  rw [unrows_append]
  exact hf.append (hd.within due)

theorem empty_or_deeper (h : ∀ l ∈ inner, n < l.level) :
    ∀ row ∈ inner.map Line.render, row = "" ∨ 4 * n < width row := by
  rw [List.forall_mem_map]
  intro l hl
  by_cases he : l.text = ""
  · exact .inl (render_of_empty he)
  · have hw := width_render he
    have hn := h l hl
    exact .inr (by omega)

theorem Blocks.closes_own (hi : Blocks inner) (hn : ∀ l ∈ inner, m < l.level) :
    Closes ((⟨m, "\x7b"⟩ : Line).render :: inner.map Line.render) (4 * m) := by
  refine ⟨[], inner.map Line.render, ?_, ⟨[], rfl⟩, ?_, empty_or_deeper hn⟩
  · rw [render_eq (by simp)]
    rfl
  · rw [unrows_render]
    exact hi.balanced

theorem Blocks.closes (h : Blocks ls) {after : List String}
    (hr : ls.map Line.render = before ++ (blanks n ++ "\x7d") :: after) : Closes before n := by
  induction h generalizing before n after with
  | nil => simp at hr
  | @text l ls hl _ ih =>
    have ht : Takes (l.render ++ "\n") [] [] := balanced_render hl
    rw [List.map_cons] at hr
    cases before with
    | nil =>
      rw [(List.cons.inj hr).1] at ht
      exact (not_takes_closing n "\n" [] ht).elim
    | cons row before =>
      obtain ⟨rfl, hls⟩ := List.cons.inj hr
      have hf : Takes (unrows [l.render]) [] [] := by simpa [unrows] using ht
      exact (ih hls).behind hf
  | @block m inner ls hi hn _ ih ih' =>
    have ht := takes_opening m
    rw [List.map_cons, List.map_append, List.map_cons] at hr
    cases before with
    | nil =>
      rw [(List.cons.inj hr).1] at ht
      exact (not_takes_closing n "\n" _ ht).elim
    | cons row before =>
      obtain ⟨rfl, hls⟩ := List.cons.inj hr
      obtain ⟨rest, he⟩ | ⟨rest, rfl, he⟩ := append_cons_cases hls
      · have hf : Takes (unrows [(⟨m, "\x7b"⟩ : Line).render]) [] ['\x7d'] := by
          simpa [unrows] using ht
        exact (ih he).behind hf
      · cases rest with
        | nil =>
          have hrow := (List.cons.inj he).1
          rw [render_eq (by simp)] at hrow
          obtain rfl := blanks_inj hrow
          simpa using hi.closes_own hn
        | cons row rest =>
          obtain ⟨rfl, hrest⟩ := List.cons.inj he
          have hb : Balanced (unrows
              ((⟨m, "\x7b"⟩ :: (inner ++ [⟨m, "\x7d"⟩])).map Line.render)) := by
            rw [unrows_render]
            exact (Blocks.block hi hn .nil).balanced
          simpa using (ih' hrest).behind hb

end Closing

/-! ## The blocks of a class -/

section Class

variable {style : Style} {plan : MappingPlan} {head entityClass name : String}
  {calls texts : List String}

theorem blocks_comments (h : OneLine (style.comments texts)) : Blocks (style.comments texts) := by
  unfold Style.comments at h ⊢
  split_ifs at h ⊢
  · induction texts with
    | nil => exact .nil
    | cons text texts ih =>
      obtain ⟨ht, hts⟩ := oneLine_cons.mp h
      have hu : Unbroken text := by simpa [line, Unbroken] using ht
      exact .text (balanced_comment hu) (ih hts)
  · exact .nil

theorem blocks_callLines (h : ∀ call ∈ calls, Balanced call) : Blocks (callLines calls) := by
  induction calls with
  | nil => exact .nil
  | cons call calls ih =>
    obtain ⟨hc, hcs⟩ := List.forall_mem_cons.mp h
    cases calls with
    | nil => exact Blocks.nil.cons (hc.append (by decide))
    | cons next calls => exact (ih hcs).cons hc

theorem blocks_chain (hh : Balanced head) (h : ∀ call ∈ calls, Balanced call) :
    Blocks (chain head calls) := by
  cases calls with
  | nil => exact Blocks.nil.cons (hh.append (by decide))
  | cons call calls => exact (blocks_callLines h).indent.cons hh

theorem blocks_blankLine : Blocks [blankLine] := .text (by decide) .nil

theorem blocks_headingLines (previous : Option Section) (g : Section) :
    Blocks (headingLines previous g) := by
  have ht : Blocks [line ("// " ++ g.title)] := .text (by cases g <;> decide) .nil
  unfold headingLines
  split_ifs
  · exact blocks_blankLine.append .nil
  · exact blocks_blankLine.append ht
  · exact .nil
  · exact ht

theorem blocks_bodyLines {statements : List Statement} (hc : Plain entityClass)
    (h : ∀ s ∈ statements, ∀ name ∈ s.identifiers, Plain name) (previous : Option Section) :
    Blocks (bodyLines entityClass previous statements) := by
  induction statements generalizing previous with
  | nil => exact .nil
  | cons s statements ih =>
    obtain ⟨hs, hss⟩ := List.forall_mem_cons.mp h
    rw [bodyLines_cons, statementLines_eq_chain]
    refine (blocks_headingLines _ _).append (Blocks.append ?_ (ih hss _))
    exact blocks_chain (balanced_firstCall hs) (balanced_laterCalls hc hs)

theorem blocks_configureLines (h : ∀ name ∈ plan.names, Plain name)
    (hl : OneLine (configureLines style plan)) : Blocks (configureLines style plan) := by
  have hc : Plain plan.entityClass := h _ (by simp [MappingPlan.names])
  have hb : Blocks (bodyLines plan.entityClass none plan.statements) := by
    refine blocks_bodyLines hc (fun s hs name hn => h name ?_) none
    simp only [MappingPlan.names, MappingPlan.identifiers, List.mem_append, List.mem_flatMap]
    exact .inr (.inl ⟨s, hs, hn⟩)
  have hhead : Balanced ("public void Configure(EntityTypeBuilder<" ++ plan.entityClass ++
      "> builder)") :=
    hc.balanced.between (p := [')']) (by decide) (by decide)
  unfold configureLines at hl ⊢
  exact (blocks_comments (oneLine_append.mp hl).1).append (hb.braced.cons hhead)

theorem blocks_constant (hn : Balanced name) (value : String)
    (h : OneLine (style.comments texts)) :
    Blocks (style.comments texts ++ [stringConstant name value]) := by
  have hs : Balanced ("public const string " ++ name ++ " = " ++ literal value ++ ";") := by
    have hname : Balanced ("public const string " ++ name ++ " = ") :=
      hn.between (p := []) (by decide) (by decide)
    exact (hname.append (balanced_literal value)).append (by decide)
  exact (blocks_comments h).append (Blocks.nil.cons hs)

theorem blocks_constantsLines {constants : TableConstants}
    (h : ∀ column ∈ constants.columns, Plain column.1)
    (hl : OneLine (constantsLines style plan constants)) :
    Blocks (constantsLines style plan constants) := by
  unfold constantsLines columnsStruct at hl ⊢
  rw [tableStruct_eq] at hl ⊢
  simp only [oneLine_cons, oneLine_append, oneLine_braced] at hl
  obtain ⟨⟨-, hschema, hname⟩, -, -, hcolumns⟩ := hl
  have hs : Blocks (schemaConstant style plan constants.schema) :=
    .flatMap fun value hv => blocks_constant (by decide) value
      (oneLine_append.mp (oneLine_flatMap.mp hschema value hv)).1
  have hn : Blocks (nameConstant style plan constants.name) :=
    blocks_constant (by decide) _ (oneLine_append.mp hname).1
  have hc : Blocks (constants.columns.flatMap (columnLines style plan)) :=
    .flatMap fun column hm => blocks_constant (h column hm).balanced column.2
      (oneLine_append.mp (oneLine_flatMap.mp hcolumns column hm)).1
  exact ((hs.append hn).braced.cons (by decide)).append
    (blocks_blankLine.append (hc.braced.cons (by decide)))

theorem blocks_classLines (h : ∀ name ∈ plan.names, Plain name) :
    Blocks (classLines style plan) := by
  have hl : OneLine (classLines style plan) := oneLine_classLines fun name hn => (h name hn).unbroken
  have hclass : Plain plan.mappingClass := h _ (by simp [MappingPlan.names])
  have hentity : Plain plan.entityClass := h _ (by simp [MappingPlan.names])
  have hhead : Balanced ("internal class " ++ plan.mappingClass ++ " : IEntityTypeConfiguration<" ++
      plan.entityClass ++ ">") := by
    have hopen : Balanced ("internal class " ++ plan.mappingClass ++
        " : IEntityTypeConfiguration<") :=
      hclass.balanced.between (p := []) (by decide) (by decide)
    exact (hopen.append hentity.balanced).append (by decide)
  rw [classLines_eq] at hl ⊢
  simp only [oneLine_cons, oneLine_append, oneLine_braced, constantsPart, oneLine_flatMap] at hl
  obtain ⟨hcomments, -, hconfigure, hconstants⟩ := hl
  have hc : Blocks (constantsPart style plan plan.constants) := by
    refine .flatMap fun constants hm => ?_
    refine blocks_blankLine.append (blocks_constantsLines (fun column hcolumn => ?_)
      (hconstants constants hm).2)
    refine h column.1 ?_
    simp only [MappingPlan.names, MappingPlan.identifiers, List.mem_append, List.mem_flatMap]
    exact .inr (.inr ⟨constants, hm, List.mem_map_of_mem hcolumn⟩)
  exact (blocks_comments hcomments).append
    (((blocks_configureLines h hconfigure).append hc).braced.cons hhead)

theorem blocks_usingLines (h : Plain plan.entityNamespace) : Blocks (usingLines plan) := by
  have hl : ∀ name ∈ libraryNamespaces, Balanced name := by decide
  have hd : ∀ name, Balanced name → Balanced (Usings.directive name) := fun name hn =>
    hn.between (p := []) (by decide) (by decide)
  rw [usingLines_of_unbroken h.unbroken, List.map_eq_flatMap]
  refine .flatMap fun name hm => Blocks.nil.cons (hd name ?_)
  exact forall_mem_ordered hl h.balanced name hm

theorem blocks_fileLines (h : ∀ name ∈ plan.names, Plain name) :
    Blocks (fileLines style plan) := by
  have hentity : Plain plan.entityNamespace := h _ (by simp [MappingPlan.names])
  have hmapping : Plain plan.mappingNamespace := h _ (by simp [MappingPlan.names])
  have hc : Blocks (classLines style plan) := blocks_classLines h
  have hw : Blocks (withinNamespace plan (classLines style plan)) := by
    unfold withinNamespace
    split
    · exact hc
    · exact hc.braced.cons (Balanced.append (by decide) hmapping.balanced)
  unfold fileLines
  split
  · exact hc
  · exact (blocks_usingLines hentity).append (blocks_blankLine.append hw)

end Class

theorem fileLines_ne_nil (style : Style) (plan : MappingPlan) : fileLines style plan ≠ [] := by
  unfold fileLines
  split
  · simp [classLines_eq]
  · simp

/-- A class whose names hold no character that the reading turns on is written with its brackets
nested, whatever its literals quote. Each row that is a closing brace closes one that stands as far
in, with nothing but balanced rows further in between them. Written with a current level, the class
is the same text, and the level comes back to the outermost one without having been lowered there. -/
theorem render_nests (style : Style) (plan : MappingPlan) (h : ∀ name ∈ plan.names, Plain name) :
    Balanced (render style plan) ∧
    (∀ before n after, rows (render style plan) = before ++ (blanks n ++ "\x7d") :: after →
      Closes before n) ∧
    (Writer.run {} (fileWrites style plan)).finish = render style plan ∧
    (Writer.run {} (fileWrites style plan)).level = 0 ∧
    ∀ before after, fileWrites style plan = before ++ .outdent :: after →
      0 < (Writer.run {} before).level := by
  have hb : Blocks (fileLines style plan) := blocks_fileLines h
  have hl : OneLine (fileLines style plan) := oneLine_fileLines fun name hn => (h name hn).unbroken
  have hp := produces_fileWrites style plan
  have hw : Writer.run {} (fileWrites style plan) = ⟨fileLines style plan, 0⟩ := by
    simpa using hp.run {}
  refine ⟨hb.balanced, fun before n after hr => ?_, ?_, by rw [hw], hp.above {}⟩
  · rw [render, rows_renderLines hl] at hr
    obtain ⟨rest, he⟩ | ⟨rest, -, he⟩ := append_cons_cases hr
    · exact hb.closes he
    · cases rest with
      | nil => simp [blanks] at he
      | cons row rest => simp at he
  · rw [hw, Writer.finish, render, renderLines_eq_intercalate (fileLines_ne_nil _ _)]

end SourceText

namespace Sample

def quotingOrdersPlan : MappingPlan :=
  { shopOrdersPlan with
    statements := [
      .table "Orders \"\x7b" (some "//"),
      .key ["Id", "Line"],
      .index { columns := ["Line"], filter := some "(\\\")\n\x7d" }]
    constants := some { name := "Orders \"\x7b", columns := [("Id", "id("), ("Line", "/*")] } }

end Sample

namespace SourceText

open Sample in
theorem render_nests_quotingOrders :
    (∀ name ∈ quotingOrdersPlan.names, Plain name) ∧
      Balanced (render { document := true } quotingOrdersPlan) ∧
      ∃ before after, rows (render { document := true, singleFile := true } quotingOrdersPlan) =
        before ++ (blanks 4 ++ "\x7d") :: after ∧ Closes before 4 := by
  have hplain : ∀ name ∈ quotingOrdersPlan.names, Plain name := by decide +kernel
  have hl : (⟨1, "\x7d"⟩ : Line) ∈
      fileLines { document := true, singleFile := true } quotingOrdersPlan := by
    decide +kernel
  obtain ⟨as, bs, he⟩ := List.append_of_mem hl
  have hr : rows (render { document := true, singleFile := true } quotingOrdersPlan) =
      as.map Line.render ++ (blanks 4 ++ "\x7d") :: (bs.map Line.render ++ [""]) := by
    rw [render, rows_renderLines (oneLine_fileLines fun name hm => (hplain name hm).unbroken), he,
      List.map_append, List.map_cons, List.append_assoc, render_eq (by simp)]
    rfl
  obtain ⟨hbalanced, -⟩ := render_nests { document := true } quotingOrdersPlan hplain
  obtain ⟨-, hcloses, -⟩ :=
    render_nests { document := true, singleFile := true } quotingOrdersPlan hplain
  exact ⟨hplain, hbalanced, _, _, hr, hcloses _ _ _ hr⟩

end SourceText

end EntityMapping
