import EntityMapping.Unicode.Basic
import Mathlib.Algebra.Ring.GeomSum

/-! # Sets of code points

A set of code points is a number with one bit for each of them. Whole tables are compared by the
bits that they have in common.
-/

namespace EntityMapping.Unicode

variable {first step count n : Nat}

/-! ## Code points in equal steps -/

/-- As many code points, from `first` on in steps of `step`. -/
def span (first step count : Nat) : Nat :=
  ((2 ^ (step * count) - 1) / (2 ^ step - 1)) <<< first

theorem span_zero_succ (hs : 0 < step) (count : Nat) :
    span 0 step (count + 1) = 2 ^ step * span 0 step count + 1 := by
  have h2 : 2 ≤ 2 ^ step := Nat.pow_le_pow_right Nat.two_pos hs
  rw [span, span, Nat.shiftLeft_zero, Nat.shiftLeft_zero, Nat.pow_mul, Nat.pow_mul,
    ← Nat.geomSum_eq h2, ← Nat.geomSum_eq h2, geom_sum_succ]

theorem testBit_span_zero_iff (hs : 0 < step) :
    (span 0 step count).testBit n = true ↔ ∃ k < count, n = step * k := by
  induction count generalizing n with
  | zero => simp [span]
  | succ count ih =>
    have h1 : 1 < 2 ^ step := Nat.one_lt_two_pow hs.ne'
    rw [span_zero_succ hs, Nat.testBit_two_pow_mul_add _ h1]
    split
    next hn =>
      rw [Nat.testBit_one_eq_true_iff_self_eq_zero]
      constructor
      · exact fun h => ⟨0, count.succ_pos, h⟩
      · rintro ⟨k, -, rfl⟩
        have hk : k = 0 := Nat.lt_one_iff.mp (Nat.lt_of_mul_lt_mul_left (by rwa [Nat.mul_one]))
        rw [hk, Nat.mul_zero]
    next hn =>
      rw [ih]
      constructor
      · rintro ⟨k, hk, he⟩
        refine ⟨k + 1, Nat.succ_lt_succ hk, ?_⟩
        rw [Nat.mul_succ]
        omega
      · rintro ⟨k, hk, rfl⟩
        cases k with
        | zero => exact (hn hs).elim
        | succ k => exact ⟨k, Nat.lt_of_succ_lt_succ hk, by rw [Nat.mul_succ, Nat.add_sub_cancel]⟩

theorem testBit_span_iff (hs : 0 < step) :
    (span first step count).testBit n = true ↔ ∃ k < count, n = first + step * k := by
  have hspan : span first step count = span 0 step count <<< first := rfl
  rw [hspan, Nat.testBit_shiftLeft, Bool.and_eq_true, decide_eq_true_eq, testBit_span_zero_iff hs]
  constructor
  · rintro ⟨hf, k, hk, he⟩
    exact ⟨k, hk, by omega⟩
  · rintro ⟨k, hk, rfl⟩
    exact ⟨Nat.le_add_right _ _, k, hk, Nat.add_sub_cancel_left _ _⟩

theorem testBit_span_one_iff : (span first 1 count).testBit n = true ↔
    first ≤ n ∧ n < first + count := by
  rw [testBit_span_iff Nat.one_pos]
  constructor
  · rintro ⟨k, hk, rfl⟩
    omega
  · rintro ⟨hf, hn⟩
    exact ⟨n - first, by omega, by omega⟩

/-! ## Unions -/

section Union

variable {α : Type} {bits : α → Nat} {l : List α}

def union (bits : α → Nat) (l : List α) : Nat := l.foldr (fun a rest => bits a ||| rest) 0

theorem testBit_union_iff :
    (union bits l).testBit n = true ↔ ∃ a ∈ l, (bits a).testBit n = true := by
  induction l with
  | nil => simp [union]
  | cons a l ih =>
    have hcons : union bits (a :: l) = bits a ||| union bits l := rfl
    rw [hcons, Nat.testBit_or, Bool.or_eq_true, ih, List.exists_mem_cons_iff]

end Union

def Ranges.bits (ranges : Ranges) : Nat := union (fun r => span r.1 1 (r.2 + 1 - r.1)) ranges

theorem Ranges.testBit_bits {ranges : Ranges} {c : Char} :
    ranges.bits.testBit c.toNat = ranges.covers c := by
  rw [Bool.eq_iff_iff, bits, testBit_union_iff, covers_iff]
  refine exists_congr fun r => and_congr_right fun _ => ?_
  rw [testBit_span_one_iff]
  omega

/-! ## What two sets have in common -/

variable {a b : Nat}

theorem testBit_eq_false_of_disjoint (h : a &&& b = 0) (ha : a.testBit n = true) :
    b.testBit n = false := by
  have hn := congrArg (Nat.testBit · n) h
  simpa [ha] using hn

theorem testBit_of_subset (h : a &&& b = a) (ha : a.testBit n = true) : b.testBit n = true := by
  rw [← h, Nat.testBit_and, Bool.and_eq_true] at ha
  exact ha.2

end EntityMapping.Unicode
