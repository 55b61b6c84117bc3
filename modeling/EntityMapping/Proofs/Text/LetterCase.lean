import EntityMapping.Proofs.Text.Trimming

/-! # The letter case of ASCII

Lower case turns capital letters of ASCII into small ones and leaves all else as it is, blanks
among it.
-/

namespace EntityMapping.Text

open Unicode

variable {a c : Char} {s : List Char}

theorem toLower_cases (c : Char) : c.toLower = c ∨
    (0x41 ≤ c.toNat ∧ c.toNat ≤ 0x5A) ∧ 0x61 ≤ c.toLower.toNat ∧ c.toLower.toNat ≤ 0x7A := by
  unfold Char.toLower
  split
  next h =>
    obtain ⟨hl, hu⟩ := h
    have hA : 'A'.val.toNat = 0x41 := rfl
    have hZ : 'Z'.val.toNat = 0x5A := rfl
    have hshift : ('a'.val - 'A'.val).toNat = 0x20 := rfl
    rw [ge_iff_le, UInt32.le_iff_toNat_le] at hl
    rw [UInt32.le_iff_toNat_le] at hu
    have hs : (c.val + ('a'.val - 'A'.val)).toNat = c.val.toNat + 0x20 := by
      rw [UInt32.toNat_add]
      omega
    unfold Char.toNat
    rw [hs]
    omega
  next => exact .inl rfl

/-- A character that is no letter comes from no other one. -/
theorem toLower_eq_iff (ha : ¬ (0x41 ≤ a.toNat ∧ a.toNat ≤ 0x7A)) : c.toLower = a ↔ c = a := by
  rcases toLower_cases c with h | ⟨⟨hl, hu⟩, hl', hu'⟩
  · rw [h]
  · apply iff_of_false
    · rintro rfl
      omega
    · rintro rfl
      omega

theorem not_isBlank_of_letter (hl : 0x41 ≤ c.toNat) (hu : c.toNat ≤ 0x7A) :
    isBlank c = false := by
  simp only [isBlank, Ranges.covers, blankRanges, List.any_cons, List.any_nil, Bool.or_false,
    Bool.or_eq_false_iff, Bool.and_eq_false_iff, decide_eq_false_iff_not]
  omega

theorem isBlank_toLower (c : Char) : isBlank c.toLower = isBlank c := by
  rcases toLower_cases c with h | ⟨⟨hl, hu⟩, hl', hu'⟩
  · rw [h]
  · rw [not_isBlank_of_letter (by omega) hu', not_isBlank_of_letter hl (by omega)]

theorem asciiLower_append (s t : List Char) :
    asciiLower (s ++ t) = asciiLower s ++ asciiLower t :=
  List.map_append

theorem unpadded_asciiLower_iff : Unpadded (asciiLower s) ↔ Unpadded s := by
  have hblank : ∀ o : Option Char, (∀ c ∈ o.map Char.toLower, isBlank c = false) ↔
      ∀ c ∈ o, isBlank c = false := by
    intro o
    cases o with
    | none => simp
    | some c => simp [isBlank_toLower]
  have hhead : (asciiLower s).head? = s.head?.map Char.toLower := List.head?_map
  have hlast : (asciiLower s).getLast? = s.getLast?.map Char.toLower := List.getLast?_map
  constructor
  · rintro ⟨hh, hl⟩
    rw [hhead, hblank] at hh
    rw [hlast, hblank] at hl
    exact ⟨hh, hl⟩
  · rintro ⟨hh, hl⟩
    refine ⟨?_, ?_⟩
    · rwa [hhead, hblank]
    · rwa [hlast, hblank]

theorem Unpadded.of_asciiLower_eq {t : List Char} (h : Unpadded t)
    (hcase : asciiLower s = asciiLower t) : Unpadded s := by
  rw [← unpadded_asciiLower_iff, hcase, unpadded_asciiLower_iff]
  exact h

end EntityMapping.Text
