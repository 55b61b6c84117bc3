import EntityMapping.Proofs.SourceText.Layout
import EntityMapping.SourceText.MappingClass
import Mathlib.Data.List.Basic
import Mathlib.Data.List.Sort
import Mathlib.Data.String.Basic
import Mathlib.Tactic.SplitIfs

/-! # The lines of using directives

Directives are joined to one text, which falls into their lines again: a directive ends in a
semicolon, so that no line end is lost between two of them.
-/

namespace EntityMapping

namespace Text

variable {ps qs : List (List Char)} {c : Char} {s t : List Char} {ds : List (List Char)}

theorem linesOfPieces_append (hq : qs ≠ []) :
    linesOfPieces (ps ++ qs) = ps.map dropReturn ++ linesOfPieces qs := by
  induction ps with
  | nil => rfl
  | cons p ps ih =>
    obtain ⟨q, rest, he⟩ := List.exists_cons_of_ne_nil (l := ps ++ qs) (by simp [hq])
    rw [List.cons_append, he, linesOfPieces, ← he, ih]
    · rfl
    · exact List.cons_ne_nil _ _

theorem splitOnP_append_singleton {p : Char → Bool} (hc : p c = false) (s : List Char) :
    ∃ front piece, (s ++ [c]).splitOnP p = front ++ [piece ++ [c]] := by
  induction s with
  | nil => exact ⟨[], [], List.splitOnP_eq_singleton (by simpa using hc)⟩
  | cons a s ih =>
    obtain ⟨front, piece, h⟩ := ih
    rw [List.cons_append, List.splitOnP_cons_eq_if_modifyHead, h]
    cases p a with
    | true => exact ⟨[] :: front, piece, rfl⟩
    | false =>
      cases front with
      | nil => exact ⟨[], a :: piece, rfl⟩
      | cons f front => exact ⟨(a :: f) :: front, piece, rfl⟩

theorem lines_of_unbroken (hs : s ≠ []) (h : '\n' ∉ s) : lines s = [s] := by
  have hp : ∀ c ∈ s, (c == '\n') = false := by
    intro c hc
    simpa using fun he : c = '\n' => h (he ▸ hc)
  rw [lines, List.splitOnP_eq_singleton hp]
  simp [linesOfPieces, hs]

/-- A text that ends in neither part of a line end has its lines to itself. -/
theorem lines_append_feed (hn : c ≠ '\n') (hr : c ≠ '\r') (s t : List Char) :
    lines (s ++ [c] ++ '\n' :: t) = lines (s ++ [c]) ++ lines t := by
  obtain ⟨front, piece, h⟩ := splitOnP_append_singleton (p := (· == '\n')) (by simpa using hn) s
  have hd : dropReturn (piece ++ [c]) = piece ++ [c] := by simp [dropReturn, hr]
  have hl : linesOfPieces [piece ++ [c]] = [piece ++ [c]] := by simp [linesOfPieces]
  have hfirst : lines (s ++ [c]) = front.map dropReturn ++ [piece ++ [c]] := by
    rw [lines, h, linesOfPieces_append (List.cons_ne_nil _ _), hl]
  rw [hfirst, lines, List.splitOnP_append_cons _ _ rfl, h,
    linesOfPieces_append (List.splitOnP_ne_nil _ _), List.map_append, List.map_singleton, hd]
  rfl

theorem lines_intercalate (hn : c ≠ '\n') (hr : c ≠ '\r') (h : ∀ d ∈ ds, ∃ s, d = s ++ [c]) :
    lines (['\n'].intercalate ds) = ds.flatMap lines := by
  induction ds with
  | nil => rfl
  | cons d ds ih =>
    obtain ⟨hd, hds⟩ := List.forall_mem_cons.mp h
    cases ds with
    | nil => simp
    | cons e ds =>
      obtain ⟨s, rfl⟩ := hd
      rw [List.intercalate_cons_cons, List.append_assoc, List.singleton_append,
        lines_append_feed hn hr, ih hds]
      rfl

end Text

namespace SourceText

namespace Usings

variable {name a : String} {names : List String}

theorem mem_insert : a ∈ insert name names ↔ a = name ∨ a ∈ names := by
  induction names with
  | nil => simp [insert]
  | cons first rest ih =>
    unfold insert
    split_ifs with he hl
    · simp [he]
    · simp
    · simp only [List.mem_cons, ih]
      exact or_left_comm

theorem mem_ofList : a ∈ (ofList names).namespaces ↔ a ≠ "" ∧ a ∈ names := by
  have hf : ∀ u : Usings, a ∈ (names.foldl add u).namespaces ↔
      a ∈ u.namespaces ∨ a ≠ "" ∧ a ∈ names := by
    induction names with
    | nil => simp
    | cons name names ih =>
      intro u
      have ha : a ∈ (u.add name).namespaces ↔ a ∈ u.namespaces ∨ a ≠ "" ∧ a = name := by
        by_cases he : name = ""
        · subst he
          exact ⟨.inl, fun h => h.elim id fun ⟨hn, ha⟩ => (hn ha).elim⟩
        · have hem : name.isEmpty = false := by simpa using he
          simp only [add, hem, Bool.false_eq_true, if_false, mem_insert]
          constructor
          · rintro (rfl | h)
            · exact .inr ⟨he, rfl⟩
            · exact .inl h
          · rintro (h | ⟨-, rfl⟩)
            · exact .inr h
            · exact .inl rfl
      rw [List.foldl_cons, ih, ha, List.mem_cons, or_assoc, ← and_or_left]
  simpa [ofList] using hf {}

theorem pairwise_insert (h : names.Pairwise (· < ·)) : (insert name names).Pairwise (· < ·) := by
  induction names with
  | nil => exact List.pairwise_singleton _ _
  | cons first rest ih =>
    obtain ⟨hfirst, hrest⟩ := List.pairwise_cons.mp h
    unfold insert
    split_ifs with he hl
    · exact h
    · refine List.pairwise_cons.mpr ⟨List.forall_mem_cons.mpr ⟨hl, fun a ha => ?_⟩, h⟩
      exact hl.trans (hfirst a ha)
    · refine List.pairwise_cons.mpr ⟨fun a ha => ?_, ih hrest⟩
      rcases mem_insert.mp ha with rfl | ha
      · exact lt_of_le_of_ne (not_lt.mp hl) (Ne.symm he)
      · exact hfirst a ha

theorem pairwise_ofList (names : List String) : (ofList names).namespaces.Pairwise (· < ·) := by
  have hf : ∀ u : Usings, u.namespaces.Pairwise (· < ·) →
      (names.foldl add u).namespaces.Pairwise (· < ·) := by
    induction names with
    | nil => exact fun _ h => h
    | cons name names ih =>
      intro u h
      refine ih _ ?_
      unfold add
      split_ifs
      · exact h
      · exact pairwise_insert h
  exact hf {} List.Pairwise.nil

theorem namespaces_eq_insert {names' : List String}
    (h : ∀ b, b ∈ (ofList names').namespaces ↔ b = a ∨ b ∈ (ofList names).namespaces) :
    (ofList names').namespaces = (ofList names).namespaces ∨
      ∃ front back, (ofList names').namespaces = front ++ a :: back ∧
        (ofList names).namespaces = front ++ back := by
  by_cases ha : a ∈ (ofList names).namespaces
  · refine .inl ((pairwise_ofList _).eq_of_mem_iff (pairwise_ofList _) fun b => ?_)
    rw [h]
    exact or_iff_right_of_imp fun hb => hb ▸ ha
  · obtain ⟨front, back, he⟩ := List.append_of_mem ((h a).mpr (.inl rfl))
    have hp : (front ++ a :: back).Pairwise (· < ·) := he ▸ pairwise_ofList names'
    have hn : a ∉ front ++ back := (List.nodup_middle.mp hp.nodup).notMem
    refine .inr ⟨front, back, he, (pairwise_ofList names).eq_of_mem_iff ?_ fun b => ?_⟩
    · exact hp.sublist ((List.Sublist.refl front).append (List.sublist_cons_self a back))
    · by_cases hb : b = a
      · subst hb
        exact iff_of_false ha hn
      · have hm := h b
        rw [he] at hm
        simpa [hb] using hm.symm

theorem mem_ordered {u : Usings} : a ∈ u.ordered ↔ a ∈ u.namespaces := by
  cases hs : isSystem a <;> simp [ordered, hs]

/-- The lines that a directive is written on, more than one if its name has a line feed. -/
def directiveLines (name : String) : List Line :=
  (Text.lines (directive name).toList).map fun text => line (String.ofList text)

theorem toList_directive (name : String) :
    (directive name).toList = "using ".toList ++ name.toList ++ [';'] := by
  simp [directive]

theorem directiveLines_of_unbroken (h : Unbroken name) :
    directiveLines name = [line (directive name)] := by
  have hu : '\n' ∉ (directive name).toList := by
    simpa [directive, Unbroken] using h
  have hne : (directive name).toList ≠ [] := by
    simp [toList_directive]
  rw [directiveLines, Text.lines_of_unbroken hne hu, List.map_singleton, String.ofList_toList]

theorem toList_render (u : Usings) :
    u.render.toList = ['\n'].intercalate ((u.ordered.map directive).map String.toList) := by
  rw [render, String.toList_intercalate]
  rfl

end Usings

theorem usingLines_eq (plan : MappingPlan) :
    usingLines plan =
      (Usings.ofList (requiredNamespaces plan)).ordered.flatMap Usings.directiveLines := by
  rw [usingLines, Usings.toList_render, Text.lines_intercalate (c := ';') (by decide) (by decide)]
  · simp only [List.flatMap_map, List.map_flatMap]
    rfl
  · simpa using fun name _ => ⟨_, Usings.toList_directive name⟩

theorem system_mem_ordered (plan : MappingPlan) :
    "System" ∈ (Usings.ofList (requiredNamespaces plan)).ordered := by
  rw [Usings.mem_ordered, Usings.mem_ofList]
  simp [requiredNamespaces]

def libraryNamespaces : List String :=
  ["Microsoft.EntityFrameworkCore", "Microsoft.EntityFrameworkCore.Metadata.Builders",
   "Microsoft.EntityFrameworkCore.Storage.ValueConversion", "System", "System.Collections.Generic"]

theorem forall_mem_ordered {P : String → Prop} {plan : MappingPlan}
    (hl : ∀ name ∈ libraryNamespaces, P name) (he : P plan.entityNamespace) :
    ∀ name ∈ (Usings.ofList (requiredNamespaces plan)).ordered, P name := by
  intro name hm
  rw [Usings.mem_ordered, Usings.mem_ofList] at hm
  simp only [requiredNamespaces, List.mem_append, List.mem_cons, List.not_mem_nil, or_false] at hm
  simp only [libraryNamespaces, List.forall_mem_cons] at hl
  obtain ⟨hmapper, hbuilders, hconversion, hsystem, hgeneric, -⟩ := hl
  rcases hm.2 with (((rfl | rfl) | hr) | rfl | rfl) | hr
  · exact hmapper
  · exact hbuilders
  · split at hr
    · obtain rfl := List.mem_singleton.mp hr
      exact hconversion
    · cases hr
  · exact hsystem
  · exact hgeneric
  · split at hr
    · cases hr
    · obtain rfl := List.mem_singleton.mp hr
      exact he

theorem usingLines_of_unbroken {plan : MappingPlan} (h : Unbroken plan.entityNamespace) :
    usingLines plan = (Usings.ofList (requiredNamespaces plan)).ordered.map fun name =>
      line (Usings.directive name) := by
  have hl : ∀ name ∈ libraryNamespaces, Unbroken name := by simp [libraryNamespaces, Unbroken]
  rw [usingLines_eq, List.map_eq_flatMap]
  exact List.flatMap_congr fun name hm =>
    Usings.directiveLines_of_unbroken (forall_mem_ordered hl h name hm)

theorem renderLines_usingLines {plan : MappingPlan} (h : Unbroken plan.entityNamespace) :
    renderLines (usingLines plan) = (Usings.ofList (requiredNamespaces plan)).render ++ "\n" := by
  have hn : (Usings.ofList (requiredNamespaces plan)).ordered ≠ [] :=
    List.ne_nil_of_mem (system_mem_ordered plan)
  rw [usingLines_of_unbroken h, renderLines_eq_intercalate (by simpa using hn), List.map_map,
    Usings.render]
  simp only [Function.comp_def, render_line]

end SourceText

end EntityMapping
