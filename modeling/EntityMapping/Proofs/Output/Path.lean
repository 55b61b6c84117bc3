import EntityMapping.Output.Path
import EntityMapping.Proofs.Text.Splitting

/-! # Names in paths

The names of a path hold no slash. A name without a slash that is put into a directory is the last
name of the path that it makes there. The paths above a path begin with the same names.
-/

namespace EntityMapping.Output.Path

variable {s directory name : String} {p ancestor : Path}

theorem slash_not_mem_of_mem_names (h : name ∈ (parse s).names) : '/' ∉ name.toList := by
  obtain ⟨piece, hp, rfl⟩ := List.mem_map.mp h
  rw [String.toList_ofList]
  intro hm
  have hs := (Text.of_mem_splitOnP (List.mem_filter.mp hp).1 hm).2
  simp at hs

theorem names_append_slash (front rest : String) :
    (parse (front ++ "/" ++ rest)).names = (parse front).names ++ (parse rest).names := by
  have hs : (front ++ "/" ++ rest).toList.splitOnP (· == '/') =
      front.toList.splitOnP (· == '/') ++ rest.toList.splitOnP (· == '/') := by
    have hl : (front ++ "/" ++ rest).toList = front.toList ++ '/' :: rest.toList := by simp
    rw [hl]
    exact List.splitOnP_append_cons _ _ (by decide)
  simp only [parse, hs, List.filter_append, List.map_append]

theorem names_of_slash_not_mem (hn : name ≠ "") (hs : '/' ∉ name.toList) :
    (parse name).names = [name] := by
  have hp : name.toList.splitOnP (· == '/') = [name.toList] := by
    refine List.splitOnP_eq_singleton fun c hc => ?_
    simp only [beq_eq_false_iff_ne, ne_eq]
    rintro rfl
    exact hs hc
  simp [parse, hp, hn]

theorem isAbsolute_append (h : s ≠ "") : isAbsolute (s ++ name) = isAbsolute s := by
  obtain ⟨c, cs, hc⟩ := List.exists_cons_of_ne_nil (String.toList_eq_nil_iff.not.mpr h)
  simp [isAbsolute, hc]

theorem not_isAbsolute (hs : '/' ∉ name.toList) : isAbsolute name = false := by
  unfold isAbsolute
  rw [beq_eq_false_iff_ne]
  exact fun h => hs (List.mem_of_head? h)

theorem endsInSlash_append (hn : name ≠ "") : endsInSlash (s ++ name) = endsInSlash name := by
  obtain ⟨front, c, hc⟩ := (List.eq_nil_or_concat' name.toList).resolve_left
    (String.toList_eq_nil_iff.not.mpr hn)
  simp [endsInSlash, hc]

theorem not_endsInSlash (hs : '/' ∉ name.toList) : endsInSlash name = false := by
  unfold endsInSlash
  rw [beq_eq_false_iff_ne]
  exact fun h => hs (List.mem_of_getLast? h)

theorem exists_append_slash (h : endsInSlash s = true) : ∃ front, s = front ++ "/" := by
  obtain ⟨front, hf⟩ := List.getLast?_eq_some_iff.mp (beq_iff_eq.mp h)
  refine ⟨String.ofList front, String.toList_injective ?_⟩
  simp [hf]

theorem parse_join (hd : directory ≠ "") (hn : name ≠ "") (hs : '/' ∉ name.toList) :
    parse (join directory name) =
      { absolute := (parse directory).absolute, names := (parse directory).names ++ [name] } := by
  have hone : ∃ front, join directory name = front ++ "/" ++ name ∧
      (parse directory).names = (parse front).names ∧
      isAbsolute (front ++ "/" ++ name) = isAbsolute directory := by
    simp only [join, not_isAbsolute hs, Bool.false_eq_true, if_false]
    split_ifs with he
    · obtain ⟨front, rfl⟩ := exists_append_slash he
      refine ⟨front, rfl, ?_, isAbsolute_append hd⟩
      have hnone : (parse "").names = [] := by decide
      simpa [hnone] using names_append_slash front ""
    · refine ⟨directory, rfl, rfl, ?_⟩
      rw [String.append_assoc, isAbsolute_append hd]
  obtain ⟨front, hj, hf, ha⟩ := hone
  have hnames := names_append_slash front name
  rw [names_of_slash_not_mem hn hs, ← hf] at hnames
  have hlast : endsInSlash (front ++ "/" ++ name) = false := by
    rw [endsInSlash_append hn, not_endsInSlash hs]
  rw [hj, ← hnames]
  simp only [parse, ha, hlast]

/-! ## Directories above a path -/

/-- The names that lead away from where they are met. -/
def onward (p : Path) : List String := p.names.filter (· != ".")

theorem mem_onward_of_ne (h : name ∈ p.names) (hn : name ≠ ".") : name ∈ p.onward :=
  List.mem_filter.mpr ⟨h, by simpa using hn⟩

theorem slash_not_mem_of_mem_onward (h : name ∈ (parse s).onward) : '/' ∉ name.toList :=
  slash_not_mem_of_mem_names (List.mem_of_mem_filter h)

theorem prefix_of_mem_beginnings {names beginning : List String}
    (h : beginning ∈ beginnings names) : beginning <+: names := by
  induction names generalizing beginning with
  | nil => cases h
  | cons name names ih =>
    rcases List.mem_append.mp h with h | h
    · obtain ⟨shorter, hs, rfl⟩ := List.mem_map.mp h
      exact (List.prefix_cons_inj name).mpr (ih hs)
    · split at h
      · cases h
      · rw [List.mem_singleton.mp h]
        exact (List.prefix_cons_inj name).mpr List.nil_prefix

theorem filter_components : p.components.filter (· != ".") = p.onward := by
  unfold components onward
  cases p.names with
  | nil => rfl
  | cons first rest =>
    dsimp only
    by_cases hf : first = "." <;> cases p.absolute <;> simp [hf]

theorem of_mem_ancestors (h : ancestor ∈ p.ancestors) :
    ancestor.absolute = p.absolute ∧ ancestor.onward <+: p.onward := by
  rcases List.mem_append.mp h with h | h
  · obtain ⟨names, hn, rfl⟩ := List.mem_map.mp h
    have hp := (prefix_of_mem_beginnings hn).filter (· != ".")
    rw [filter_components] at hp
    exact ⟨rfl, hp⟩
  · split at h
    next ha =>
      rw [List.mem_singleton.mp h]
      exact ⟨ha.symm, List.nil_prefix⟩
    next => cases h

end EntityMapping.Output.Path
