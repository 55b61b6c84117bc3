/-! # Decimal integers

The digits of a number have its value, the first of them is a zero only for zero, and a sign stands
in front of a negative integer. So integers are known by their texts.
-/

namespace EntityMapping.Decimal

variable {i j : Int} {m n : Nat} {c : Char} {s : List Char}

/-! ## Natural numbers -/

theorem isDigit_of_mem_repr (h : c ∈ n.repr.toList) : c.isDigit := by
  rw [Nat.toList_repr] at h
  exact Nat.isDigit_of_mem_toDigits (by decide) (by decide) h

theorem natRepr_ne_nil : n.repr.toList ≠ [] := by
  rw [Nat.toList_repr]
  exact Nat.toDigits_ne_nil

theorem ofDigitChars_repr : Nat.ofDigitChars 10 n.repr.toList 0 = n := by
  rw [Nat.toList_repr]
  exact Nat.ofDigitChars_ten_toDigits

theorem natRepr_inj (h : m.repr = n.repr) : m = n := by
  calc
    m = Nat.ofDigitChars 10 m.repr.toList 0 := ofDigitChars_repr.symm
    _ = Nat.ofDigitChars 10 n.repr.toList 0 := by rw [h]
    _ = n := ofDigitChars_repr

theorem natRepr_zero : (0 : Nat).repr.toList = ['0'] := by
  rw [Nat.toList_repr, Nat.toDigits_zero]

theorem exists_natRepr_eq_cons (hn : 0 < n) :
    ∃ c s, n.repr.toList = c :: s ∧ c.isDigit = true ∧ c ≠ '0' := by
  rw [Nat.toList_repr]
  induction n using Nat.strongRecOn with
  | ind n ih =>
    rcases Nat.lt_or_ge n 10 with hlt | hge
    · have hdigit : ∀ d < 10, 0 < d → d.digitChar.isDigit = true ∧ d.digitChar ≠ '0' := by decide
      exact ⟨_, _, Nat.toDigits_of_lt_base hlt, hdigit n hlt hn⟩
    · obtain ⟨c, s, hs, hc⟩ := ih (n / 10) (by omega) (by omega)
      exact ⟨c, s ++ [(n % 10).digitChar],
        by rw [Nat.toDigits_of_base_le (by decide) hge, hs, List.cons_append], hc⟩

/-! ## Integers -/

theorem intRepr_of_nonneg (h : 0 ≤ i) : i.repr.toList = i.toNat.repr.toList := by
  rw [Int.repr_eq_if, if_pos h]

theorem intRepr_of_neg (h : i < 0) : i.repr.toList = '-' :: (-i).toNat.repr.toList := by
  rw [Int.repr_eq_if, if_neg (by omega), String.toList_append]
  rfl

theorem natRepr_ne_minus : n.repr.toList ≠ '-' :: s := by
  intro h
  cases isDigit_of_mem_repr (n := n) (c := '-') (by simp [h])

theorem natRepr_append_ne_minus (t : List Char) : n.repr.toList ++ t ≠ '-' :: s := by
  intro h
  rcases List.append_eq_cons_iff.mp h with ⟨hn, -⟩ | ⟨_, hs, -⟩
  · exact natRepr_ne_nil hn
  · exact natRepr_ne_minus hs

theorem intRepr_inj (h : i.repr = j.repr) : i = j := by
  have hl : i.repr.toList = j.repr.toList := by rw [h]
  rcases Int.lt_or_le i 0 with hi | hi <;> rcases Int.lt_or_le j 0 with hj | hj
  · rw [intRepr_of_neg hi, intRepr_of_neg hj] at hl
    have hn := natRepr_inj (String.toList_inj.mp (List.cons.inj hl).2)
    omega
  · rw [intRepr_of_neg hi, intRepr_of_nonneg hj] at hl
    exact (natRepr_ne_minus hl.symm).elim
  · rw [intRepr_of_nonneg hi, intRepr_of_neg hj] at hl
    exact (natRepr_ne_minus hl).elim
  · rw [intRepr_of_nonneg hi, intRepr_of_nonneg hj] at hl
    have hn := natRepr_inj (String.toList_inj.mp hl)
    omega

def IsNumeric (c : Char) : Prop := c = '-' ∨ c.isDigit

theorem isNumeric_of_mem_repr (h : c ∈ i.repr.toList) : IsNumeric c := by
  rcases Int.lt_or_le i 0 with hi | hi
  · rw [intRepr_of_neg hi] at h
    exact (List.mem_cons.mp h).imp_right isDigit_of_mem_repr
  · rw [intRepr_of_nonneg hi] at h
    exact .inr (isDigit_of_mem_repr h)

theorem exists_intRepr_eq_cons (i : Int) : ∃ c s, i.repr.toList = c :: s ∧ IsNumeric c := by
  have hne : i.repr.toList ≠ [] := by
    rcases Int.lt_or_le i 0 with hi | hi
    · rw [intRepr_of_neg hi]
      exact List.cons_ne_nil _ _
    · rw [intRepr_of_nonneg hi]
      exact natRepr_ne_nil
  obtain ⟨c, s, hs⟩ := List.exists_cons_of_ne_nil hne
  exact ⟨c, s, hs, isNumeric_of_mem_repr (i := i) (by simp [hs])⟩

end EntityMapping.Decimal
