import EntityMapping.Document.Record
import EntityMapping.Proofs.Json.Written
import Mathlib.Data.List.TakeWhile

/-! # Lexemes that are read back

Words, strings and integers are read from their written forms, blanks in front are passed over and
what comes after is left in place. Only an integer asks for something of what comes after: that no
digit, no point and no exponent goes on with it.
-/

namespace EntityMapping.Document

open Decimal (powerOfTwo isDigit_of_mem_repr ofDigitChars_repr natRepr_zero exists_natRepr_eq_cons
  intRepr_of_nonneg intRepr_of_neg natRepr_append_ne_minus)
open Json (Blanks blanks_cons_iff WrittenItems escapeChar controlDigits)

variable {c : Char} {before rest text : List Char}

/-! ## Marks -/

theorem dropWhile_blanks (hb : Blanks before) (hc : isBlank c = false) :
    (before ++ c :: rest).dropWhile isBlank = c :: rest := by
  rw [List.dropWhile_append_of_pos hb, List.dropWhile_cons_of_neg (by simp [hc])]

theorem peek_run (hb : Blanks before) (hc : isBlank c = false) :
    peek.run (before ++ c :: rest) = pure (some c, c :: rest) := by
  simp [peek, skipBlanks, dropWhile_blanks hb hc]

theorem peek_cons (hc : isBlank c = false) : peek.run (c :: rest) = pure (some c, c :: rest) :=
  peek_run Json.blanks_nil hc

theorem peek_blanks (hb : Blanks before) : peek.run before = pure (none, []) := by
  have hd : before.dropWhile isBlank = [] := List.dropWhile_eq_nil_iff.mpr hb
  simp [peek, skipBlanks, hd]

theorem skip_run : skip.run (c :: rest) = pure ((), rest) := rfl

theorem colon_run (hb : Blanks before) : colon.run (before ++ ':' :: rest) = pure ((), rest) := by
  simp [colon, isBlank, peek_run hb, skip_run]

/-! ## Strings -/

theorem hexValue_controlDigits (hc : c.toNat < 0x20) :
    ∃ a b, controlDigits c = [a, b] ∧ hexValue? '0' '0' a b = some c.toNat := by
  have hall : ∀ n < 0x20, hexValue? '0' '0' (n / 16).digitChar (n % 16).digitChar = some n := by
    decide
  exact ⟨_, _, rfl, hall c.toNat hc⟩

theorem stringBody_cons (hc : 0x20 ≤ c.toNat) (hq : c ≠ '"') (hs : c ≠ '\\') :
    stringBody (c :: rest) = consText c (stringBody rest) := by
  rw [stringBody, if_neg (Nat.not_lt.mpr hc)] <;> simp [hq, hs]

theorem stringBody_escapeChar (c : Char) (rest : List Char) :
    stringBody (escapeChar c ++ rest) = consText c (stringBody rest) := by
  unfold escapeChar
  split
  case h_8 hq hs _ _ _ _ _ =>
    split
    · next hlt =>
      obtain ⟨a, b, hd, hv⟩ := hexValue_controlDigits hlt
      have ht : isTrailing c.toNat = false := by simp [isTrailing]; omega
      have hl : isLeading c.toNat = false := by simp [isLeading]; omega
      rw [hd]
      simp [stringBody, hv, ht, hl]
    · next hge => exact stringBody_cons (by omega) hq hs
  all_goals rfl

theorem stringBody_escaped (s rest : List Char) :
    stringBody (s.flatMap escapeChar ++ '"' :: rest) = pure (s, rest) := by
  induction s with
  | nil => rfl
  | cons c s ih => rw [List.flatMap_cons, List.append_assoc, stringBody_escapeChar, ih]; rfl

theorem string_run (s : String) (rest : List Char) :
    string.run (s.toList.flatMap escapeChar ++ '"' :: rest) = pure (s, rest) := by
  simp [string, stringBody_escaped]

/-! ## Integers -/

/-- A text that no number goes on with. -/
def Ends (rest : List Char) : Prop :=
  ∀ c ∈ rest.head?, c.isDigit = false ∧ c ≠ '.' ∧ c ≠ 'e' ∧ c ≠ 'E'

theorem ends_nil : Ends [] := nofun

@[simp] theorem ends_cons_iff :
    Ends (c :: rest) ↔ c.isDigit = false ∧ c ≠ '.' ∧ c ≠ 'e' ∧ c ≠ 'E' := by
  simp [Ends]

theorem ends_blanks (hb : Blanks before) (he : Ends rest) : Ends (before ++ rest) := by
  cases before with
  | nil => exact he
  | cons c before =>
    have hc := (blanks_cons_iff.mp hb).1
    simp only [isBlank, Bool.or_eq_true, beq_iff_eq] at hc
    rcases hc with ((rfl | rfl) | rfl) | rfl <;> simp [ends_cons_iff]

theorem ends_items {β : Type} {Form : β → List Char → Prop} {closing : Char} {items : List β}
    (hc : Ends [closing]) (hw : WrittenItems Form closing false items text) (rest : List Char) :
    Ends (text ++ rest) := by
  cases hw with
  | nil hb =>
    rw [List.append_assoc]
    apply ends_blanks hb
    simpa using hc
  | next hb _ _ _ =>
    simp only [List.append_assoc]
    apply ends_blanks hb
    simp

def NoDigit (rest : List Char) : Prop := ∀ c ∈ rest.head?, c.isDigit = false

theorem Ends.noDigit (he : Ends rest) : NoDigit rest := fun c hc => (he c hc).1

theorem digits_run {ds : List Char} (hd : ∀ c ∈ ds, c.isDigit = true) (he : NoDigit rest) :
    digits.run (ds ++ rest) = pure (ds, rest) := by
  have ht : rest.takeWhile Char.isDigit = [] ∧ rest.dropWhile Char.isDigit = rest := by
    cases rest with
    | nil => exact ⟨rfl, rfl⟩
    | cons c rest => simp [he c rfl]
  simp [digits, List.takeWhile_append_of_pos hd, List.dropWhile_append_of_pos hd, ht]

theorem le_ofDigitChars (ds : List Char) (n : Nat) : n ≤ Nat.ofDigitChars 10 ds n := by
  induction ds generalizing n with
  | nil => exact Nat.le_refl n
  | cons c ds ih =>
    rw [Nat.ofDigitChars_cons]
    have := ih (10 * n + (c.toNat - '0'.toNat))
    omega

theorem fits_iff {n : Nat} : fits n = true ↔ n < powerOfTwo 64 := by
  rw [fits, decide_eq_true_eq]

theorem gather_eq {ds : List Char} {n : Nat} (hf : Nat.ofDigitChars 10 ds n < powerOfTwo 64) :
    gather n ds = (Nat.ofDigitChars 10 ds n, ds, []) := by
  induction ds generalizing n with
  | nil => rfl
  | cons c ds ih =>
    rw [Nat.ofDigitChars_cons] at hf ⊢
    have hn : n * 10 + digitValue c = 10 * n + (c.toNat - '0'.toNat) := by
      rw [digitValue]
      omega
    have hfits : fits (10 * n + (c.toNat - '0'.toNat)) = true :=
      fits_iff.mpr (Nat.lt_of_le_of_lt (le_ofDigitChars _ _) hf)
    rw [gather, hn, if_pos hfits, ih hf]

theorem number_run {positive : Bool} {n : Nat} (hn : n < powerOfTwo 64) (he : Ends rest) :
    (number positive).run (n.repr.toList ++ rest) = (afterWhole positive n 0).run rest := by
  rcases Nat.eq_zero_or_pos n with rfl | hpos
  · have hr : rest.head?.any Char.isDigit = false := by
      cases rest with
      | nil => rfl
      | cons c rest => simpa using (ends_cons_iff.mp he).1
    rw [natRepr_zero]
    simp [number, hr]
  · have hd := digits_run (fun c => isDigit_of_mem_repr (n := n) (c := c)) he.noDigit
    have hg : gather 0 n.repr.toList = (n, n.repr.toList, []) := by
      rw [gather_eq, ofDigitChars_repr]
      rwa [ofDigitChars_repr]
    obtain ⟨c, s, hs, hc, hz⟩ := exists_natRepr_eq_cons hpos
    rw [hs] at hg hd ⊢
    simp only [List.cons_append] at hd ⊢
    simp [number, hc, hd, hg]

theorem afterWhole_run {n : Nat} (he : Ends rest) :
    (afterWhole true n 0).run rest = pure (.integer n, rest) := by
  cases rest with
  | nil => simp [afterWhole]
  | cons c rest =>
    obtain ⟨-, hp, hl, hu⟩ := ends_cons_iff.mp he
    simp [afterWhole, hp, hl, hu]

theorem afterWhole_run_negative {n : Nat} (hn : 0 < n) (hb : n ≤ powerOfTwo 63) (he : Ends rest) :
    (afterWhole false n 0).run rest = pure (.integer (-n), rest) := by
  have hf : ¬ (n = 0 ∨ powerOfTwo 63 < n) := by omega
  cases rest with
  | nil => simp [afterWhole, hf]
  | cons c rest =>
    obtain ⟨-, hp, hl, hu⟩ := ends_cons_iff.mp he
    simp [afterWhole, hp, hl, hu, hf]

theorem signedNumber_minus : signedNumber.run ('-' :: rest) = (number false).run rest := by
  simp [signedNumber]

theorem signedNumber_of_ne (h : ∀ rest, text ≠ '-' :: rest) :
    signedNumber.run text = (number true).run text := by
  simp [signedNumber]

theorem signedNumber_run {i : Int} (hl : -powerOfTwo 63 ≤ i) (hu : i < powerOfTwo 64)
    (he : Ends rest) : signedNumber.run (i.repr.toList ++ rest) = pure (.integer i, rest) := by
  have hp : powerOfTwo 63 < powerOfTwo 64 := by decide
  rcases Int.lt_or_le i 0 with hi | hi
  · rw [intRepr_of_neg hi, List.cons_append, signedNumber_minus, number_run (by omega) he,
      afterWhole_run_negative (by omega) (by omega) he]
    congr 3
    omega
  · rw [intRepr_of_nonneg hi, signedNumber_of_ne fun _ => natRepr_append_ne_minus rest,
      number_run (by omega) he, afterWhole_run he]
    congr 3
    omega

end EntityMapping.Document
