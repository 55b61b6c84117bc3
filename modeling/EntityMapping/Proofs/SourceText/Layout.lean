import EntityMapping.SourceText.Layout

/-! # Lines as a text

The text of lines that hold no line feed falls into these lines again, so indenting lines is the
same as indenting their text.
-/

namespace EntityMapping.SourceText

variable {l : Line} {ls : List Line}

def Line.chars (l : Line) : List Char := l.render.toList ++ ['\n']

def chars (ls : List Line) : List Char := ls.flatMap Line.chars

theorem toList_renderLines (ls : List Line) : (renderLines ls).toList = chars ls := by
  have hc : Line.chars = fun l : Line => (l.render ++ "\n").toList := by
    funext l
    rw [String.toList_append]
    rfl
  rw [renderLines, String.toList_join, List.flatMap_map, chars, hc]

@[simp] theorem chars_nil : chars [] = [] := rfl

@[simp] theorem chars_cons : chars (l :: ls) = l.chars ++ chars ls := rfl

@[simp] theorem chars_append (as bs : List Line) : chars (as ++ bs) = chars as ++ chars bs :=
  List.flatMap_append

theorem toList_indentation (level : Nat) :
    (indentation level).toList = List.replicate (4 * level) ' ' :=
  String.toList_ofList

theorem render_of_empty (h : l.text = "") : l.render = "" := by
  simp [Line.render, h]

theorem toList_render (h : l.text ≠ "") :
    l.render.toList = List.replicate (4 * l.level) ' ' ++ l.text.toList := by
  simp [Line.render, h, toList_indentation]

@[simp] theorem render_line (text : String) : (line text).render = text := by
  by_cases h : text = "" <;> simp [line, Line.render, indentation, h]

@[simp] theorem renderLines_nil : renderLines [] = "" := rfl

@[simp] theorem renderLines_cons : renderLines (l :: ls) = l.render ++ "\n" ++ renderLines ls := by
  simp [renderLines]

@[simp] theorem renderLines_append (as bs : List Line) :
    renderLines (as ++ bs) = renderLines as ++ renderLines bs := by
  simp [renderLines, String.join_append]

theorem renderLines_eq_intercalate (h : ls ≠ []) :
    renderLines ls = "\n".intercalate (ls.map Line.render) ++ "\n" := by
  induction ls with
  | nil => exact (h rfl).elim
  | cons l ls ih =>
    by_cases he : ls = []
    · simp [he]
    · rw [renderLines_cons, ih he, List.map_cons,
        String.intercalate_cons_of_ne_nil (by simpa using he)]
      simp only [String.append_assoc]

def Unbroken (s : String) : Prop := '\n' ∉ s.toList

theorem not_mem_render (h : Unbroken l.text) : '\n' ∉ l.render.toList := by
  by_cases he : l.text = ""
  · simp [render_of_empty he]
  · rw [toList_render he, List.mem_append, not_or]
    refine ⟨fun hm => ?_, h⟩
    cases List.eq_of_mem_replicate hm

def indentedLine (s : List Char) : List Char :=
  if s = [] then [] else List.replicate 4 ' ' ++ s

def indented (s : String) : String :=
  String.ofList (['\n'].intercalate ((s.toList.splitOnP (· == '\n')).map indentedLine))

theorem indentedLine_render (l : Line) : indentedLine l.render.toList = l.indent.render.toList := by
  by_cases he : l.text = ""
  · have hi : l.indent.text = "" := he
    simp [render_of_empty he, render_of_empty hi, indentedLine]
  · have hi : l.indent.text ≠ "" := he
    have hr : List.replicate (4 * l.level) ' ' ++ l.text.toList ≠ [] := by simp [he]
    have hn : 4 * l.indent.level = 4 + 4 * l.level := by
      simp only [Line.indent]
      omega
    rw [toList_render he, toList_render hi, indentedLine, if_neg hr, hn,
      ← List.replicate_append_replicate, List.append_assoc]
    rfl

theorem splitOnP_chars_cons (h : Unbroken l.text) (ls : List Line) :
    (chars (l :: ls)).splitOnP (· == '\n') =
      l.render.toList :: (chars ls).splitOnP (· == '\n') := by
  rw [chars_cons, Line.chars, List.append_assoc]
  refine List.splitOnP_append_cons_of_forall_mem (fun c hc => ?_) '\n' rfl (chars ls)
  simpa using fun he : c = '\n' => not_mem_render h (he ▸ hc)

theorem indented_renderLines (h : ∀ l ∈ ls, Unbroken l.text) :
    indented (renderLines ls) = renderLines (indent ls) := by
  rw [← String.toList_inj, indented, String.toList_ofList, toList_renderLines, toList_renderLines]
  induction ls with
  | nil => rfl
  | cons l ls ih =>
    obtain ⟨hl, hls⟩ := List.forall_mem_cons.mp h
    rw [splitOnP_chars_cons hl, List.map_cons, List.intercalate_cons_of_ne_nil (by simp), ih hls,
      indentedLine_render]
    simp [indent, Line.chars]

/-! ## What holds of all lines -/

section Texts

variable {P : String → Prop} {head : String} {calls : List String}

theorem forall_mem_indent : (∀ l ∈ indent ls, P l.text) ↔ ∀ l ∈ ls, P l.text :=
  List.forall_mem_map

theorem forall_mem_braced :
    (∀ l ∈ braced ls, P l.text) ↔ P "\x7b" ∧ (∀ l ∈ ls, P l.text) ∧ P "\x7d" := by
  rw [braced, List.cons_append, List.forall_mem_cons, List.forall_mem_append, forall_mem_indent,
    List.forall_mem_singleton]
  rfl

theorem forall_mem_callLines (h : ∀ call ∈ calls, P call ∧ P (call ++ ";")) :
    ∀ l ∈ callLines calls, P l.text := by
  induction calls with
  | nil => exact nofun
  | cons call calls ih =>
    obtain ⟨hc, hcs⟩ := List.forall_mem_cons.mp h
    cases calls with
    | nil => exact List.forall_mem_singleton.mpr hc.2
    | cons next calls => exact List.forall_mem_cons.mpr ⟨hc.1, ih hcs⟩

theorem forall_mem_chain (hh : P head ∧ P (head ++ ";"))
    (h : ∀ call ∈ calls, P call ∧ P (call ++ ";")) : ∀ l ∈ chain head calls, P l.text := by
  cases calls with
  | nil => exact List.forall_mem_singleton.mpr hh.2
  | cons call calls =>
    exact List.forall_mem_cons.mpr ⟨hh.1, forall_mem_indent.mpr (forall_mem_callLines h)⟩

end Texts

/-! ## Lines at a level -/

def margin (n : Nat) : List Char := List.replicate (4 * n) ' '

/-- The characters of lines that are moved that many levels in. -/
def charsAt (n : Nat) (ls : List Line) : List Char :=
  chars (ls.map fun l => { l with level := l.level + n })

variable {n : Nat} {as bs : List Line} {text : String}

theorem margin_succ (n : Nat) : margin (n + 1) = margin n ++ [' ', ' ', ' ', ' '] := by
  rw [margin, Nat.mul_add, ← List.replicate_append_replicate]
  rfl

theorem chars_eq_charsAt (ls : List Line) : chars ls = charsAt 0 ls := by
  simp [charsAt]

@[simp] theorem charsAt_nil : charsAt n [] = [] := rfl

@[simp] theorem charsAt_append : charsAt n (as ++ bs) = charsAt n as ++ charsAt n bs := by
  simp [charsAt]

@[simp] theorem charsAt_indent : charsAt n (indent ls) = charsAt (n + 1) ls := by
  simp [charsAt, indent, Function.comp_def, Line.indent, Nat.add_assoc, Nat.add_comm 1]

@[simp] theorem charsAt_blankLine : charsAt n (blankLine :: ls) = '\n' :: charsAt n ls := rfl

theorem charsAt_line (h : text ≠ "") :
    charsAt n (line text :: ls) = margin n ++ (text.toList ++ '\n' :: charsAt n ls) := by
  simp [charsAt, Line.chars, toList_render, line, h, margin]

@[simp] theorem charsAt_braced : charsAt n (braced ls) =
    margin n ++ '\x7b' :: '\n' :: (charsAt (n + 1) ls ++ (margin n ++ ['\x7d', '\n'])) := by
  rw [braced, List.cons_append, charsAt_line (by decide), charsAt_append, charsAt_indent,
    charsAt_line (by decide)]
  simp

end EntityMapping.SourceText
