import EntityMapping.Proofs.Text.LetterCase
import EntityMapping.Schema.TypeName

/-! # Type names and their spellings

A type name may be written with `System.` before it and `?` behind it, between blanks, and in any
letter case. Of all this only the letter case of `System.` bears on its category: in other letters
the opening is not taken off, and a name with such an opening belongs to no category but `other`.
-/

namespace EntityMapping.ValueType

open Text Unicode

variable {name core s front back : List Char} {qualified nullable : Bool}

def qualifier : List Char := "System.".toList

/-- The name as it is written, with the opening and the mark of a nullable type or without them. -/
def written (qualified nullable : Bool) (name : List Char) : List Char :=
  (if qualified then qualifier else []) ++ (name ++ if nullable then ['?'] else [])

/-- A name that has, in no letter case, an opening or a mark of its own, and no blanks around it. -/
structure IsPlain (name : List Char) : Prop where
  not_qualified : ¬ asciiLower qualifier <+: asciiLower name
  not_nullable : ¬ ['?'] <:+ asciiLower name
  unpadded : Unpadded name

instance (name : List Char) : Decidable (IsPlain name) :=
  decidable_of_iff (¬ asciiLower qualifier <+: asciiLower name ∧ ¬ ['?'] <:+ asciiLower name ∧
      Unpadded name)
    ⟨fun ⟨hq, hm, hu⟩ => ⟨hq, hm, hu⟩, fun h => ⟨h.not_qualified, h.not_nullable, h.unpadded⟩⟩

/-! ## What is taken off a name -/

def unqualified (s : List Char) : List Char := (dropOpening? qualifier s).getD s

def unmarked (s : List Char) : List Char := (dropEnding? ['?'] s).getD s

theorem bareTypeName_eq (s : List Char) : bareTypeName s = unmarked (unqualified (trim s)) := rfl

theorem unqualified_append (s : List Char) : unqualified (qualifier ++ s) = s := by
  rw [unqualified, dropOpening?_eq_some_iff.mpr rfl, Option.getD_some]

theorem unqualified_eq_self (h : ¬ qualifier <+: s) : unqualified s = s := by
  cases hd : dropOpening? qualifier s with
  | none => rw [unqualified, hd, Option.getD_none]
  | some rest => exact absurd ⟨rest, (dropOpening?_eq_some_iff.mp hd).symm⟩ h

theorem unmarked_append (s : List Char) : unmarked (s ++ ['?']) = s := by
  rw [unmarked, dropEnding?_eq_some_iff.mpr rfl, Option.getD_some]

theorem unmarked_eq_self (h : ¬ ['?'] <:+ s) : unmarked s = s := by
  cases hd : dropEnding? ['?'] s with
  | none => rw [unmarked, hd, Option.getD_none]
  | some rest => exact absurd ⟨rest, (dropEnding?_eq_some_iff.mp hd).symm⟩ h

theorem unmarked_mark (h : ¬ ['?'] <:+ s) :
    unmarked (s ++ if nullable then ['?'] else []) = s := by
  cases nullable with
  | true => exact unmarked_append s
  | false =>
    rw [if_neg Bool.false_ne_true, List.append_nil]
    exact unmarked_eq_self h

theorem mark_suffix_asciiLower_iff : ['?'] <:+ asciiLower s ↔ ['?'] <:+ s := by
  have hmark : ∀ c : Char, c.toLower = '?' ↔ c = '?' := fun c => toLower_eq_iff (by decide)
  rw [asciiLower, List.singleton_suffix_iff_getLast?_eq_some, List.getLast?_map,
    Option.map_eq_some_iff, List.singleton_suffix_iff_getLast?_eq_some]
  simp only [hmark, exists_eq_right]

/-- The mark has no letter case, so that it goes with letter case as well as before it. -/
theorem asciiLower_unmarked (s : List Char) :
    asciiLower (unmarked s) = unmarked (asciiLower s) := by
  by_cases h : ['?'] <:+ s
  · obtain ⟨rest, rfl⟩ := h
    have hlower : asciiLower (rest ++ ['?']) = asciiLower rest ++ ['?'] := asciiLower_append _ _
    rw [hlower, unmarked_append, unmarked_append]
  · rw [unmarked_eq_self h, unmarked_eq_self (mark_suffix_asciiLower_iff.not.mpr h)]

/-! ## Spellings of a plain name -/

theorem asciiLower_written : asciiLower (written qualified nullable name) =
    (if qualified then asciiLower qualifier else []) ++
      (asciiLower name ++ if nullable then ['?'] else []) := by
  rw [written, asciiLower_append, asciiLower_append]
  cases qualified <;> cases nullable <;> rfl

theorem IsPlain.unpadded_written (hn : IsPlain name) :
    Unpadded (written qualified nullable name) := by
  have hopening : Unpadded (if qualified then qualifier else []) := by
    cases qualified <;> decide +kernel
  have hmark : Unpadded (if nullable then ['?'] else []) := by
    cases nullable <;> decide +kernel
  exact hopening.append (hn.unpadded.append hmark)

theorem IsPlain.not_prefix_marked (hn : IsPlain name) :
    ¬ asciiLower qualifier <+: asciiLower name ++ if nullable then ['?'] else [] := by
  cases nullable with
  | true =>
    rw [if_pos rfl, List.prefix_concat_iff]
    rintro (h | h)
    · have hlast := congrArg List.getLast? h
      rw [List.getLast?_concat] at hlast
      exact absurd hlast (by decide +kernel)
    · exact hn.not_qualified h
  | false =>
    rw [if_neg Bool.false_ne_true, List.append_nil]
    exact hn.not_qualified

theorem IsPlain.not_suffix_qualified (hn : IsPlain name) :
    ¬ ['?'] <:+ asciiLower qualifier ++ asciiLower name := by
  rw [List.singleton_suffix_iff_getLast?_eq_some, List.getLast?_append, Option.or_eq_some_iff]
  rintro (h | ⟨-, h⟩)
  · exact hn.not_nullable (List.singleton_suffix_iff_getLast?_eq_some.mpr h)
  · exact absurd h (by decide +kernel)

section Spelling

variable (hn : IsPlain name)
  (hcase : asciiLower core = asciiLower (written qualified nullable name))
include hn hcase

theorem asciiLower_bareTypeName_between (hf : ∀ c ∈ front, isBlank c = true)
    (hb : ∀ c ∈ back, isBlank c = true) :
    asciiLower (bareTypeName (front ++ (core ++ back))) =
      unmarked (asciiLower (unqualified core)) := by
  have htrim : trim (front ++ (core ++ back)) = core :=
    (hn.unpadded_written.of_asciiLower_eq hcase).trim_between hf hb
  rw [bareTypeName_eq, htrim, asciiLower_unmarked]

theorem unmarked_of_spelled (hq : qualified = true → qualifier <+: core) :
    unmarked (asciiLower (unqualified core)) = asciiLower name := by
  rw [asciiLower_written] at hcase
  have hrest : asciiLower (unqualified core) =
      asciiLower name ++ if nullable then ['?'] else [] := by
    cases qualified with
    | true =>
      obtain ⟨rest, rfl⟩ := hq rfl
      rw [asciiLower_append, if_pos rfl] at hcase
      rw [unqualified_append]
      exact List.append_cancel_left hcase
    | false =>
      rw [if_neg Bool.false_ne_true, List.nil_append] at hcase
      have hopening : ¬ qualifier <+: core := by
        intro h
        have hlower : asciiLower qualifier <+: asciiLower core := h.map Char.toLower
        rw [hcase] at hlower
        exact hn.not_prefix_marked hlower
      rw [unqualified_eq_self hopening, hcase]
  rw [hrest, unmarked_mark hn.not_nullable]

theorem unmarked_of_misspelled (hq : qualified = true) (hs : ¬ qualifier <+: core) :
    unmarked (asciiLower (unqualified core)) = asciiLower qualifier ++ asciiLower name := by
  rw [asciiLower_written, if_pos hq, ← List.append_assoc] at hcase
  rw [unqualified_eq_self hs, hcase, unmarked_mark hn.not_suffix_qualified]

end Spelling

/-! ## The category -/

variable {typeName typeName' : String}

theorem ofTypeName_congr (h : asciiLower (bareTypeName typeName.toList) =
    asciiLower (bareTypeName typeName'.toList)) : ofTypeName typeName = ofTypeName typeName' := by
  rw [ofTypeName, h]
  rfl

theorem ofTypeName_eq_other
    (h : asciiLower qualifier <+: asciiLower (bareTypeName typeName.toList)) :
    ofTypeName typeName = other := by
  have hnames : ∀ known ∈ textNames ++ binaryNames ++ numericNames,
      ¬ asciiLower qualifier <+: known.toList := by decide +kernel
  have hnone : String.ofList (asciiLower (bareTypeName typeName.toList)) ∉
      textNames ++ binaryNames ++ numericNames := by
    intro hk
    refine hnames _ hk ?_
    rwa [String.toList_ofList]
  simp only [List.mem_append, not_or] at hnone
  obtain ⟨⟨htext, hbinary⟩, hnumeric⟩ := hnone
  simp only [ofTypeName, List.contains_iff_mem, htext, hbinary, hnumeric, if_false]

theorem IsPlain.asciiLower_bareTypeName (hn : IsPlain name) :
    asciiLower (bareTypeName name) = asciiLower name := by
  have hself : asciiLower name = asciiLower (written false false name) := by simp [written]
  have hbare : asciiLower (bareTypeName ([] ++ (name ++ []))) =
      unmarked (asciiLower (unqualified name)) :=
    asciiLower_bareTypeName_between hn hself nofun nofun
  rw [List.nil_append, List.append_nil] at hbare
  exact hbare.trans (unmarked_of_spelled hn hself nofun)

/-- The category of a type name does not depend on how the name is spelled, unless its opening is
in other letters than `System.`: then the category is `other`, whichever the plain name has. -/
theorem ofTypeName_of_written {name core : String} {qualified nullable : Bool}
    (front back : String) (hn : IsPlain name.toList)
    (hcase : asciiLower core.toList = asciiLower (written qualified nullable name.toList))
    (hf : ∀ c ∈ front.toList, isBlank c = true) (hb : ∀ c ∈ back.toList, isBlank c = true) :
    (ofTypeName (front ++ core ++ back) = ofTypeName name ↔
      (qualified = true → qualifier <+: core.toList) ∨ ofTypeName name = other) ∧
    (qualified = true → ¬ qualifier <+: core.toList →
      ofTypeName (front ++ core ++ back) = other) := by
  have hbare : asciiLower (bareTypeName (front ++ core ++ back).toList) =
      unmarked (asciiLower (unqualified core.toList)) := by
    simp only [String.toList_append, List.append_assoc]
    exact asciiLower_bareTypeName_between hn hcase hf hb
  by_cases hq : qualified = true → qualifier <+: core.toList
  · have hsame : ofTypeName (front ++ core ++ back) = ofTypeName name := by
      apply ofTypeName_congr
      rw [hbare, unmarked_of_spelled hn hcase hq, hn.asciiLower_bareTypeName]
    exact ⟨iff_of_true hsame (.inl hq), fun h hs => absurd (hq h) hs⟩
  · obtain ⟨h, hs⟩ := Classical.not_imp.mp hq
    have hother : ofTypeName (front ++ core ++ back) = other := by
      apply ofTypeName_eq_other
      rw [hbare, unmarked_of_misspelled hn hcase h hs]
      exact List.prefix_append _ _
    refine ⟨?_, fun _ _ => hother⟩
    rw [hother, or_iff_right hq]
    exact eq_comm

theorem ofTypeName_nullableBytes :
    IsPlain "Byte[]".toList ∧
      asciiLower "System.bYTE[]?".toList = asciiLower (written true true "Byte[]".toList) ∧
      qualifier <+: "System.bYTE[]?".toList ∧
      (∀ c ∈ "\u2003\t".toList, isBlank c = true) ∧ (∀ c ∈ "\n".toList, isBlank c = true) ∧
      ofTypeName ("\u2003\t" ++ "System.bYTE[]?" ++ "\n") = binary := by
  have hn : IsPlain "Byte[]".toList := by decide +kernel
  have hcase : asciiLower "System.bYTE[]?".toList =
      asciiLower (written true true "Byte[]".toList) := by decide +kernel
  have hq : qualifier <+: "System.bYTE[]?".toList := by decide +kernel
  have hf : ∀ c ∈ "\u2003\t".toList, isBlank c = true := List.all_eq_true.mp (by decide +kernel)
  have hb : ∀ c ∈ "\n".toList, isBlank c = true := List.all_eq_true.mp (by decide +kernel)
  have hsame := (ofTypeName_of_written "\u2003\t" "\n" hn hcase hf hb).1.mpr (.inl fun _ => hq)
  have hbinary : ofTypeName "Byte[]" = binary := by decide +kernel
  exact ⟨hn, hcase, hq, hf, hb, hsame.trans hbinary⟩

/-- A name that loses its category with the capital letter of its opening. -/
theorem ofTypeName_smallOpening :
    IsPlain "String".toList ∧
      asciiLower "system.String".toList = asciiLower (written true false "String".toList) ∧
      ofTypeName "String" = text ∧ ofTypeName "system.String" = other :=
  ⟨by decide +kernel, by decide +kernel, by decide +kernel, by decide +kernel⟩

end EntityMapping.ValueType
