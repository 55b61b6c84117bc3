import EntityMapping.Proofs.Unicode.CodePoints
import EntityMapping.Unicode.Alphanumeric
import EntityMapping.Unicode.CaseMapping

/-! # What upper case looks like

The upper case of a character is listed, lies in a run of the table, or is the character itself.
It is never empty, begins with no small letter of ASCII, and stays within ASCII. Its first character
is its own upper case, and that of a letter or number is one as well.
-/

namespace EntityMapping.Unicode

/-- The three ways in which a character gets its upper case. -/
inductive UpperCase (c : Char) : List Char → Prop
  | listed {image : List Nat} : (c.toNat, image) ∈ upperExpansions →
      UpperCase c (image.map Char.ofNat)
  | run {run : CaseRun} : run ∈ upperRuns → run.covers c = true → UpperCase c [run.apply c]
  | itself : (∀ run ∈ upperRuns, run.covers c = false) → UpperCase c [c]

theorem upperCase_upperChar (c : Char) : UpperCase c (upperChar c) := by
  unfold upperChar mapCase
  cases hl : upperExpansions.lookup c.toNat with
  | some image =>
    obtain ⟨_, _, he, -⟩ := List.lookup_eq_some_iff.mp hl
    exact .listed (by simp [he])
  | none =>
    cases hf : upperRuns.find? (·.covers c) with
    | some run => exact .run (List.mem_of_find?_eq_some hf) (by simpa using List.find?_some hf)
    | none => exact .itself (by simpa using hf)

theorem upperExpansions_ne_nil : ∀ e ∈ upperExpansions, e.2 ≠ [] := by
  decide +kernel

theorem UpperCase.ne_nil {c : Char} {image : List Char} (h : UpperCase c image) : image ≠ [] := by
  cases h with
  | listed he => simpa using upperExpansions_ne_nil _ he
  | run => exact List.cons_ne_nil _ _
  | itself => exact List.cons_ne_nil _ _

theorem upperChar_ne_nil (c : Char) : upperChar c ≠ [] := (upperCase_upperChar c).ne_nil

/-! ## Small letters of ASCII -/

def IsSmall (n : Nat) : Prop := 0x61 ≤ n ∧ n ≤ 0x7A

instance : DecidablePred IsSmall := fun _ => inferInstanceAs (Decidable (_ ∧ _))

theorem isSmall_of_ofNat {n : Nat} (h : IsSmall (Char.ofNat n).toNat) : IsSmall n := by
  by_cases hv : n.isValidChar
  · rw [Char.ofNat, dif_pos hv] at h
    exact h
  · rw [Char.ofNat, dif_neg hv] at h
    exact absurd h (by decide)

theorem not_isSmall_upperExpansions : ∀ e ∈ upperExpansions, ∀ n ∈ e.2.head?, ¬ IsSmall n := by
  decide +kernel

theorem not_isSmall_upperRuns :
    ∀ run ∈ upperRuns, run.last + run.shift < 0x61 ∨ 0x7A < run.first + run.shift := by
  decide +kernel

theorem UpperCase.not_isSmall_head {c d : Char} {image : List Char} (hu : UpperCase c image)
    (h : image.head? = some d) : ¬ IsSmall d.toNat := by
  intro hs
  cases hu with
  | listed he =>
    obtain ⟨n, hn, rfl⟩ := Option.map_eq_some_iff.mp (List.head?_map ▸ h)
    exact not_isSmall_upperExpansions _ he n hn (isSmall_of_ofNat hs)
  | run hr hc =>
    cases h
    have hr := not_isSmall_upperRuns _ hr
    have hs := isSmall_of_ofNat hs
    simp only [CaseRun.covers, Bool.and_eq_true, decide_eq_true_eq] at hc
    unfold IsSmall at hs
    omega
  | itself hn =>
    cases h
    have hc := hn ⟨0x61, 0x7A, 1, -32⟩ List.mem_cons_self
    simp [CaseRun.covers, hs.1, hs.2, Nat.mod_one] at hc

/-! ## ASCII -/

theorem toNat_ofNat_le (n : Nat) : (Char.ofNat n).toNat ≤ n := by
  by_cases hv : n.isValidChar
  · rw [Char.ofNat, dif_pos hv]
    exact Nat.le_refl n
  · rw [Char.ofNat, dif_neg hv]
    exact Nat.zero_le n

theorem upperExpansions_above : ∀ e ∈ upperExpansions, 0x80 ≤ e.1 := by
  decide +kernel

theorem upperRuns_ascii :
    ∀ run ∈ upperRuns, run.first < 0x80 → run.last + run.shift < 0x80 := by
  decide +kernel

theorem UpperCase.ascii {c d : Char} {image : List Char} (hu : UpperCase c image)
    (hc : c.toNat < 0x80) (hd : d ∈ image) : d.toNat < 0x80 := by
  cases hu with
  | listed he =>
    have ha := upperExpansions_above _ he
    dsimp only at ha
    omega
  | @run run hr hcov =>
    rw [List.mem_singleton.mp hd]
    simp only [CaseRun.covers, Bool.and_eq_true, decide_eq_true_eq] at hcov
    have ha := upperRuns_ascii _ hr (by omega)
    have hle := toNat_ofNat_le (c.toNat + run.shift).toNat
    unfold CaseRun.apply
    omega
  | itself => rwa [List.mem_singleton.mp hd]

/-! ## The table as a whole -/

namespace CaseRun

def count (run : CaseRun) : Nat := (run.last - run.first) / run.step + 1

def sources (run : CaseRun) : Nat := span run.first run.step run.count

def images (run : CaseRun) : Nat := span (run.first + run.shift).toNat run.step run.count

def isProper (run : CaseRun) : Bool :=
  Nat.blt 0 run.step && decide (0 ≤ run.first + run.shift) &&
    (Nat.blt (run.last + run.shift).toNat 0xD800 ||
      Nat.blt 0xDFFF (run.first + run.shift).toNat && Nat.blt (run.last + run.shift).toNat 0x110000)

variable {run : CaseRun} {c : Char}

theorem exists_step_of_covers (hc : run.covers c = true) :
    ∃ k < run.count, c.toNat = run.first + run.step * k := by
  simp only [covers, Bool.and_eq_true, decide_eq_true_eq, beq_iff_eq] at hc
  obtain ⟨⟨hf, hl⟩, hm⟩ := hc
  refine ⟨(c.toNat - run.first) / run.step, ?_, ?_⟩
  · have hle : (c.toNat - run.first) / run.step ≤ (run.last - run.first) / run.step :=
      Nat.div_le_div_right (by omega)
    exact Nat.lt_succ_of_le hle
  · rw [Nat.mul_div_cancel' (Nat.dvd_of_mod_eq_zero hm)]
    omega

theorem toNat_apply (hp : run.isProper = true) (hc : run.covers c = true) :
    ((run.apply c).toNat : Int) = c.toNat + run.shift := by
  simp only [isProper, covers, Bool.and_eq_true, Bool.or_eq_true, decide_eq_true_eq, Nat.blt_eq]
    at hp hc
  have hv : (c.toNat + run.shift).toNat.isValidChar := by
    unfold Nat.isValidChar
    omega
  have ha : (run.apply c).toNat = (c.toNat + run.shift).toNat := by
    rw [apply, Char.ofNat, dif_pos hv]
    rfl
  omega

theorem step_pos (hp : run.isProper = true) : 0 < run.step := by
  simp only [isProper, Bool.and_eq_true, Nat.blt_eq] at hp
  exact hp.1.1

theorem testBit_sources (hp : run.isProper = true) (hc : run.covers c = true) :
    run.sources.testBit c.toNat = true :=
  (testBit_span_iff (step_pos hp)).mpr (exists_step_of_covers hc)

theorem testBit_images (hp : run.isProper = true) (hc : run.covers c = true) :
    run.images.testBit (run.apply c).toNat = true := by
  obtain ⟨k, hk, he⟩ := exists_step_of_covers hc
  refine (testBit_span_iff (step_pos hp)).mpr ⟨k, hk, ?_⟩
  have ha := toNat_apply hp hc
  simp only [isProper, Bool.and_eq_true, decide_eq_true_eq] at hp
  rw [he] at ha
  omega

end CaseRun

def upperSources : Nat :=
  union CaseRun.sources upperRuns ||| union (span · 1 1) (upperExpansions.map Prod.fst)

def upperImages : Nat :=
  union CaseRun.images upperRuns ||| union (span · 1 1) (upperExpansions.flatMap Prod.snd)

/-- The characters in front of an upper case that is another one. -/
def upperHeads : Nat :=
  union CaseRun.images upperRuns ||| union (span · 1 1) (upperExpansions.filterMap (·.2.head?))

theorem upperRuns_isProper : ∀ run ∈ upperRuns, run.isProper = true := by
  decide +kernel

theorem toNat_upperExpansions :
    ∀ e ∈ upperExpansions, ∀ n ∈ e.2, (Char.ofNat n).toNat = n := by
  decide +kernel

variable {c d : Char} {image : List Char}

theorem testBit_upperRuns {bits : CaseRun → Nat} {n : Nat} {rest : Nat} {run : CaseRun}
    (hr : run ∈ upperRuns) (h : (bits run).testBit n = true) :
    (union bits upperRuns ||| rest).testBit n = true := by
  rw [Nat.testBit_or, testBit_union_iff.mpr ⟨run, hr, h⟩, Bool.true_or]

theorem testBit_of_mem {l : List Nat} {n : Nat} (h : n ∈ l) (rest : Nat) :
    (rest ||| union (span · 1 1) l).testBit n = true := by
  have hn : (union (span · 1 1) l).testBit n = true :=
    testBit_union_iff.mpr ⟨n, h, testBit_span_one_iff.mpr ⟨n.le_refl, n.lt_succ_self⟩⟩
  rw [Nat.testBit_or, hn, Bool.or_true]

theorem UpperCase.testBit_images (hu : UpperCase c image) (hd : d ∈ image) :
    image = [c] ∨ upperImages.testBit d.toNat = true := by
  cases hu with
  | listed he =>
    obtain ⟨n, hn, rfl⟩ := List.mem_map.mp hd
    rw [toNat_upperExpansions _ he n hn]
    exact .inr (testBit_of_mem (List.mem_flatMap.mpr ⟨_, he, hn⟩) _)
  | run hr hc =>
    rw [List.mem_singleton.mp hd]
    exact .inr (testBit_upperRuns hr (CaseRun.testBit_images (upperRuns_isProper _ hr) hc))
  | itself => exact .inl rfl

theorem UpperCase.testBit_heads (hu : UpperCase c image) (hd : image.head? = some d) :
    image = [c] ∨ upperHeads.testBit d.toNat = true := by
  cases hu with
  | listed he =>
    obtain ⟨n, hn, rfl⟩ := Option.map_eq_some_iff.mp (List.head?_map ▸ hd)
    rw [toNat_upperExpansions _ he n (List.mem_of_head? hn)]
    exact .inr (testBit_of_mem (List.mem_filterMap.mpr ⟨_, he, hn⟩) _)
  | run hr hc =>
    cases hd
    exact .inr (testBit_upperRuns hr (CaseRun.testBit_images (upperRuns_isProper _ hr) hc))
  | itself => exact .inl rfl

theorem upperChar_eq_self (h : upperSources.testBit c.toNat = false) : upperChar c = [c] := by
  have hlookup : upperExpansions.lookup c.toNat = none := by
    rw [List.lookup_eq_none_iff]
    intro e he
    rw [bne_iff_ne]
    intro hc
    have hb : upperSources.testBit e.1 = true := testBit_of_mem (List.mem_map_of_mem he) _
    rw [← hc, h] at hb
    cases hb
  have hfind : upperRuns.find? (·.covers c) = none := by
    rw [List.find?_eq_none]
    intro run hr hc
    have hb : upperSources.testBit c.toNat = true :=
      testBit_upperRuns hr (CaseRun.testBit_sources (upperRuns_isProper run hr) hc)
    rw [h] at hb
    cases hb
  simp only [upperChar, mapCase, hlookup, hfind]

theorem upperSources_above : span 0 1 0x61 &&& upperSources = 0 := by
  decide +kernel

theorem upperChar_of_lt (h : c.toNat < 0x61) : upperChar c = [c] := by
  apply upperChar_eq_self
  apply testBit_eq_false_of_disjoint upperSources_above
  rw [testBit_span_one_iff]
  omega

theorem upperHeads_disjoint : upperHeads &&& upperSources = 0 := by
  decide +kernel

theorem upperChar_of_head? (h : (upperChar c).head? = some d) : upperChar d = [d] := by
  rcases (upperCase_upperChar c).testBit_heads h with hi | hb
  · rw [hi] at h
    cases h
    exact hi
  · exact upperChar_eq_self (testBit_eq_false_of_disjoint upperHeads_disjoint hb)

theorem upperHeads_alphanumeric : upperHeads &&& alphanumericRanges.bits = upperHeads := by
  decide +kernel

theorem isAlphanumeric_of_head? (hc : isAlphanumeric c = true)
    (h : (upperChar c).head? = some d) : isAlphanumeric d = true := by
  rcases (upperCase_upperChar c).testBit_heads h with hi | hb
  · rw [hi] at h
    cases h
    exact hc
  · have ha := testBit_of_subset upperHeads_alphanumeric hb
    rwa [Ranges.testBit_bits] at ha

end EntityMapping.Unicode
