import EntityMapping.Text.Basic
import Mathlib.Data.List.TakeWhile

/-! # What trimming takes away

Trimming takes blanks off both ends of a text and nothing else, and it leaves a text alone that
begins and ends with other characters, so that such a text is found again between any blanks.
-/

namespace EntityMapping.Text

open Unicode

variable {a b : Char} {s t front back word : List Char}

theorem exists_blank_trimStart (s : List Char) :
    ∃ front, (∀ c ∈ front, isBlank c = true) ∧ s = front ++ trimStart s :=
  ⟨s.takeWhile isBlank, fun _ h => List.mem_takeWhile_imp h, List.takeWhile_append_dropWhile.symm⟩

theorem exists_blank_trimEnd (s : List Char) :
    ∃ back, (∀ c ∈ back, isBlank c = true) ∧ s = trimEnd s ++ back := by
  obtain ⟨front, hf, hs⟩ := exists_blank_trimStart s.reverse
  refine ⟨front.reverse, fun c hc => hf c (List.mem_reverse.mp hc), ?_⟩
  rw [trimEnd, ← List.reverse_append]
  exact List.reverse_eq_iff.mp hs

theorem exists_blank_trim (s : List Char) :
    ∃ front back, (∀ c ∈ front, isBlank c = true) ∧ (∀ c ∈ back, isBlank c = true) ∧
      s = front ++ (trim s ++ back) := by
  obtain ⟨front, hf, hs⟩ := exists_blank_trimStart s
  obtain ⟨back, hb, he⟩ := exists_blank_trimEnd (trimStart s)
  exact ⟨front, back, hf, hb, by rw [trim, ← he, ← hs]⟩

theorem length_trim_le (s : List Char) : (trim s).length ≤ s.length := by
  obtain ⟨front, back, -, -, hs⟩ := exists_blank_trim s
  have hl := congrArg List.length hs
  simp only [List.length_append] at hl
  omega

theorem trim_of_ends (ha : isBlank a = false) (hb : isBlank b = false) :
    trim (a :: (s ++ [b])) = a :: (s ++ [b]) := by
  simp [trim, trimStart, trimEnd, ha, hb]

/-! ## Texts without blanks around them -/

structure Unpadded (s : List Char) : Prop where
  head : ∀ c ∈ s.head?, isBlank c = false
  last : ∀ c ∈ s.getLast?, isBlank c = false

instance (s : List Char) : Decidable (Unpadded s) :=
  decidable_of_iff (s.head?.all (!isBlank ·) = true ∧ s.getLast?.all (!isBlank ·) = true) <| by
    simp only [Option.all_eq_true, Bool.not_eq_true']
    exact ⟨fun ⟨hh, hl⟩ => ⟨hh, hl⟩, fun h => ⟨h.head, h.last⟩⟩

theorem Unpadded.append (hs : Unpadded s) (ht : Unpadded t) : Unpadded (s ++ t) := by
  constructor
  · intro c hc
    rw [List.head?_append] at hc
    rcases Option.or_eq_some_iff.mp hc with hc | ⟨-, hc⟩
    · exact hs.head c hc
    · exact ht.head c hc
  · intro c hc
    rw [List.getLast?_append] at hc
    rcases Option.or_eq_some_iff.mp hc with hc | ⟨-, hc⟩
    · exact ht.last c hc
    · exact hs.last c hc

theorem unpadded_of_not_isBlank (hn : ∀ c ∈ s, isBlank c = false) : Unpadded s :=
  ⟨fun c hc => hn c (List.mem_of_head? hc), fun c hc => hn c (List.mem_of_getLast? hc)⟩

theorem trimStart_of_blank (hf : ∀ c ∈ front, isBlank c = true) (s : List Char) :
    trimStart (front ++ s) = trimStart s :=
  List.dropWhile_append_of_pos hf

theorem trimEnd_of_blank (hb : ∀ c ∈ back, isBlank c = true) (s : List Char) :
    trimEnd (s ++ back) = trimEnd s := by
  have hr : ∀ c ∈ back.reverse, isBlank c = true := fun c hc => hb c (List.mem_reverse.mp hc)
  rw [trimEnd, List.reverse_append, List.dropWhile_append_of_pos hr, trimEnd]

theorem Unpadded.trimStart_append (h : Unpadded s) (hs : s ≠ []) (t : List Char) :
    trimStart (s ++ t) = s ++ t := by
  obtain ⟨c, rest, rfl⟩ := List.exists_cons_of_ne_nil hs
  have hc : ¬ isBlank c = true := by simp [h.head c rfl]
  rw [trimStart, List.cons_append, List.dropWhile_cons_of_neg hc]

theorem Unpadded.trimEnd_eq (h : Unpadded s) : trimEnd s = s := by
  rw [trimEnd, List.reverse_eq_iff]
  cases hr : s.reverse with
  | nil => rfl
  | cons c rest =>
    have hc : ¬ isBlank c = true := by
      simp [h.last c (by rw [List.getLast?_eq_head?_reverse, hr]; rfl)]
    rw [List.dropWhile_cons_of_neg hc]

theorem Unpadded.trim_between (h : Unpadded s) (hf : ∀ c ∈ front, isBlank c = true)
    (hb : ∀ c ∈ back, isBlank c = true) : trim (front ++ (s ++ back)) = s := by
  rw [trim, trimStart_of_blank hf]
  rcases eq_or_ne s [] with rfl | hs
  · have hnil : trimStart back = [] := List.dropWhile_eq_nil_iff.mpr hb
    rw [List.nil_append, hnil]
    rfl
  · rw [h.trimStart_append hs, trimEnd_of_blank hb, h.trimEnd_eq]

/-! ## Texts that begin with a word -/

theorem head?_trimEnd {c : Char} (h : (trimEnd s).head? = some c) : s.head? = some c := by
  obtain ⟨back, -, hs⟩ := exists_blank_trimEnd s
  rw [hs, List.head?_append, h, Option.some_or]

theorem trimEnd_append (hn : ∀ c ∈ word, isBlank c = false) (s : List Char) :
    trimEnd (word ++ s) = word ++ trimEnd s := by
  have hr : word.reverse.dropWhile isBlank = word.reverse :=
    List.reverse_eq_iff.mp (unpadded_of_not_isBlank hn).trimEnd_eq
  rw [trimEnd, List.reverse_append, List.dropWhile_append, trimEnd]
  split
  next h =>
    rw [List.isEmpty_iff.mp h, hr, List.reverse_reverse, List.reverse_nil, List.append_nil]
  next => rw [List.reverse_append, List.reverse_reverse]

theorem trim_word (hf : ∀ c ∈ front, isBlank c = true) (hw : word ≠ [])
    (hn : ∀ c ∈ word, isBlank c = false) (s : List Char) :
    trim (front ++ (word ++ s)) = word ++ trimEnd s := by
  rw [trim, trimStart_of_blank hf, (unpadded_of_not_isBlank hn).trimStart_append hw,
    trimEnd_append hn]

end EntityMapping.Text
