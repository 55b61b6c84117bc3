import Mathlib.Data.List.Basic

/-! # Pieces between separators

A text that is split at its separators falls into pieces of its other characters.
-/

namespace EntityMapping.Text

theorem of_mem_splitOnP {α : Type} {sep : α → Bool} {l piece : List α} {a : α}
    (h : piece ∈ l.splitOnP sep) (ha : a ∈ piece) : a ∈ l ∧ sep a = false := by
  induction l generalizing piece with
  | nil =>
    rw [List.splitOnP_nil, List.mem_singleton] at h
    subst h
    cases ha
  | cons b l ih =>
    have hlater : ∀ piece ∈ l.splitOnP sep, a ∈ piece → a ∈ b :: l ∧ sep a = false := by
      intro piece hp ha
      obtain ⟨hl, hs⟩ := ih hp ha
      exact ⟨.tail _ hl, hs⟩
    rw [List.splitOnP_cons_eq_if_modifyHead] at h
    obtain ⟨first, rest, hs⟩ := List.exists_cons_of_ne_nil (List.splitOnP_ne_nil sep l)
    rw [hs] at hlater h
    split at h
    next =>
      rcases List.mem_cons.mp h with rfl | h
      · cases ha
      · exact hlater piece h ha
    next hb =>
      rw [List.modifyHead_cons] at h
      rcases List.mem_cons.mp h with rfl | h
      · rcases List.mem_cons.mp ha with rfl | ha
        · exact ⟨List.mem_cons_self, by simpa using hb⟩
        · exact hlater first List.mem_cons_self ha
      · exact hlater piece (.tail _ h) ha

end EntityMapping.Text
