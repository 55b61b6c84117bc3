import EntityMapping.Naming.Identifier
import EntityMapping.Proofs.Text.Splitting
import EntityMapping.Proofs.Unicode.CaseMapping

/-! # Names joined from their words

A joined name has no breaks left in it and begins with a character that is its own upper case. It
is one capitalised word therefore, which joining leaves as it is. What comes before a break and what
comes after it are joined each by itself, and of every word all but the first character is kept.
-/

namespace EntityMapping.Naming

open Unicode Text

variable {name : String} {a b s : List Char} {c d : Char}

/-! ## Breaks -/

def breakRanges : Ranges := (0x5F, 0x5F) :: blankRanges

theorem covers_breakRanges : breakRanges.covers c = isSegmentBreak c := by
  have hs : (decide (0x5F ≤ c.toNat) && decide (c.toNat ≤ 0x5F)) = (c == separator) := by
    rw [Bool.eq_iff_iff, Bool.and_eq_true, decide_eq_true_eq, decide_eq_true_eq, beq_iff_eq,
      ← Char.toNat_inj]
    have hn : separator.toNat = 0x5F := rfl
    omega
  simp only [breakRanges, Ranges.covers, List.any_cons, hs, isSegmentBreak, isBlank]

theorem isSegmentBreak_separator : isSegmentBreak separator = true := rfl

theorem ne_separator_of_not_isSegmentBreak (h : isSegmentBreak c = false) : c ≠ separator := by
  rintro rfl
  cases h

theorem upperImages_disjoint : upperImages &&& breakRanges.bits = 0 := by
  decide +kernel

theorem not_isSegmentBreak_of_mem_upperChar (hc : isSegmentBreak c = false)
    (hd : d ∈ upperChar c) : isSegmentBreak d = false := by
  rcases (upperCase_upperChar c).testBit_images hd with hi | hb
  · rw [hi, List.mem_singleton] at hd
    rwa [hd]
  · rw [← covers_breakRanges, ← Ranges.testBit_bits]
    exact testBit_eq_false_of_disjoint upperImages_disjoint hb

/-! ## Joined names -/

/-- The words of a text, capitalised and joined. -/
def joined (s : List Char) : List Char := (s.splitOnP isSegmentBreak).flatMap capitalize

theorem toList_pascalize : (pascalize name).toList = joined name.toList :=
  String.toList_ofList

theorem joined_append_cons (a b : List Char) (hc : isSegmentBreak c = true) :
    joined (a ++ c :: b) = joined a ++ joined b := by
  rw [joined, List.splitOnP_append_cons _ _ hc, List.flatMap_append, joined, joined]

theorem joined_of_unbroken (h : ∀ c ∈ s, isSegmentBreak c = false) : joined s = capitalize s := by
  rw [joined, List.splitOnP_eq_singleton h, List.flatMap_singleton]

theorem exists_of_mem_joined (h : d ∈ joined s) :
    ∃ c ∈ s, isSegmentBreak c = false ∧ (d = c ∨ d ∈ upperChar c) := by
  obtain ⟨word, hw, hd⟩ := List.mem_flatMap.mp h
  cases word with
  | nil => cases hd
  | cons c rest =>
    rcases List.mem_append.mp hd with hd | hd
    · obtain ⟨hc, hb⟩ := of_mem_splitOnP hw List.mem_cons_self
      exact ⟨c, hc, hb, .inr hd⟩
    · obtain ⟨hc, hb⟩ := of_mem_splitOnP hw (.tail _ hd)
      exact ⟨d, hc, hb, .inl rfl⟩

theorem exists_of_head?_joined (h : (joined s).head? = some d) :
    ∃ c ∈ s, isSegmentBreak c = false ∧ (upperChar c).head? = some d := by
  rw [joined, List.head?_flatMap] at h
  obtain ⟨word, hw, hd⟩ := List.exists_of_findSome?_eq_some h
  cases word with
  | nil => cases hd
  | cons c rest =>
    rw [capitalize, List.head?_append_of_ne_nil _ (upperChar_ne_nil c)] at hd
    obtain ⟨hc, hb⟩ := of_mem_splitOnP hw List.mem_cons_self
    exact ⟨c, hc, hb, hd⟩

theorem not_isSegmentBreak_of_mem_joined (h : d ∈ joined s) : isSegmentBreak d = false := by
  obtain ⟨c, -, hb, rfl | hd⟩ := exists_of_mem_joined h
  · exact hb
  · exact not_isSegmentBreak_of_mem_upperChar hb hd

theorem upperChar_of_head?_joined (h : (joined s).head? = some d) : upperChar d = [d] := by
  obtain ⟨c, -, -, hd⟩ := exists_of_head?_joined h
  exact upperChar_of_head? hd

theorem capitalize_eq_self (h : ∀ d ∈ s.head?, upperChar d = [d]) : capitalize s = s := by
  cases s with
  | nil => rfl
  | cons c rest => rw [capitalize, h c rfl, List.singleton_append]

theorem joined_eq_self (hb : ∀ c ∈ s, isSegmentBreak c = false)
    (hu : ∀ d ∈ s.head?, upperChar d = [d]) : joined s = s := by
  rw [joined_of_unbroken hb, capitalize_eq_self hu]

theorem joined_joined (s : List Char) : joined (joined s) = joined s := by
  apply joined_eq_self
  · exact fun _ => not_isSegmentBreak_of_mem_joined
  · exact fun _ => upperChar_of_head?_joined

theorem pascalize_pascalize (name : String) : pascalize (pascalize name) = pascalize name := by
  apply String.toList_injective
  rw [toList_pascalize, toList_pascalize, joined_joined]

/-! ## What joining keeps -/

/-- The characters that are no breaks and not the first of their word, where `within` tells whether
the text goes on with a word. -/
def laterChars (within : Bool) : List Char → List Char
  | [] => []
  | c :: rest =>
    if isSegmentBreak c then laterChars false rest
    else if within then c :: laterChars true rest
    else laterChars true rest

/-- The joined words of a text in one pass over it, which goes on with a word or begins one. -/
def joinedFrom (within : Bool) : List Char → List Char
  | [] => []
  | c :: rest =>
    if isSegmentBreak c then joinedFrom false rest
    else (if within then [c] else upperChar c) ++ joinedFrom true rest

theorem laterChars_sublist (within : Bool) (s : List Char) :
    (laterChars within s).Sublist (joinedFrom within s) := by
  induction s generalizing within with
  | nil => exact List.Sublist.refl []
  | cons c rest ih =>
    unfold laterChars joinedFrom
    split
    · exact ih false
    · cases within with
      | true => exact (ih true).cons_cons c
      | false => exact (ih true).trans (List.sublist_append_right (upperChar c) _)

/-- The pass finds the words of the text: the one that it is within, as it stands, and those after
it, capitalised. -/
theorem joinedFrom_eq {word : List Char} {words : List (List Char)}
    (h : s.splitOnP isSegmentBreak = word :: words) (within : Bool) :
    joinedFrom within s =
      (if within then word else capitalize word) ++ words.flatMap capitalize := by
  induction s generalizing word words within with
  | nil =>
    obtain ⟨rfl, rfl⟩ := List.cons.inj (List.splitOnP_nil.symm.trans h)
    cases within <;> rfl
  | cons c rest ih =>
    obtain ⟨next, others, hs⟩ :=
      List.exists_cons_of_ne_nil (List.splitOnP_ne_nil isSegmentBreak rest)
    rw [List.splitOnP_cons_eq_if_modifyHead, hs, List.modifyHead_cons] at h
    unfold joinedFrom
    split at h
    next hb =>
      obtain ⟨rfl, rfl⟩ := List.cons.inj h
      rw [if_pos hb, ih hs false]
      cases within <;> rfl
    next hb =>
      obtain ⟨rfl, rfl⟩ := List.cons.inj h
      rw [if_neg hb, ih hs true]
      cases within <;> simp [capitalize]

theorem joined_eq_joinedFrom (s : List Char) : joined s = joinedFrom false s := by
  obtain ⟨word, words, hs⟩ := List.exists_cons_of_ne_nil (List.splitOnP_ne_nil isSegmentBreak s)
  rw [joinedFrom_eq hs false, joined, hs]
  rfl

/-- Joining names at a break joins what comes before the break and what comes after it. No break is
left in a joined name, all characters that do not begin a word are kept as they are and in their
order, and joining a joined name changes nothing. -/
theorem pascalize_joins :
    (∀ (a b : String) (c : Char), c = '_' ∨ isBlank c = true →
      pascalize (a ++ String.singleton c ++ b) = pascalize a ++ pascalize b) ∧
    ∀ name : String,
      (∀ d ∈ (pascalize name).toList, d ≠ '_' ∧ isBlank d = false) ∧
      (laterChars false name.toList).Sublist (pascalize name).toList ∧
      pascalize (pascalize name) = pascalize name := by
  constructor
  · intro a b c hc
    have hb : isSegmentBreak c = true := by
      rw [isSegmentBreak, Bool.or_eq_true, beq_iff_eq]
      exact hc
    apply String.toList_injective
    simp only [String.toList_append, toList_pascalize, String.toList_singleton, List.append_assoc,
      List.singleton_append, joined_append_cons _ _ hb]
  · intro name
    refine ⟨?_, ?_, pascalize_pascalize name⟩
    · intro d hd
      rw [toList_pascalize] at hd
      have hn := not_isSegmentBreak_of_mem_joined hd
      refine ⟨ne_separator_of_not_isSegmentBreak hn, ?_⟩
      exact (Bool.or_eq_false_iff.mp hn).2
    · rw [toList_pascalize, joined_eq_joinedFrom]
      exact laterChars_sublist false name.toList

theorem pascalize_joins_orderLine :
    isBlank '\u2003' = true ∧
      pascalize ("order_" ++ String.singleton '\u2003' ++ "line ID") =
        pascalize "order_" ++ pascalize "line ID" ∧
      "rderineD".toList.Sublist (pascalize "order_\u2003line ID").toList := by
  have hb : isBlank '\u2003' = true := by decide
  have hk : laterChars false "order_\u2003line ID".toList = "rderineD".toList := by decide +kernel
  obtain ⟨hbreak, hname⟩ := pascalize_joins
  obtain ⟨-, hkept, -⟩ := hname "order_\u2003line ID"
  rw [hk] at hkept
  exact ⟨hb, hbreak "order_" "line ID" '\u2003' (.inr hb), hkept⟩

end EntityMapping.Naming
