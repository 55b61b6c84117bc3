import EntityMapping.Naming.Policy
import Mathlib.Data.List.Forall2

/-! # Names with the same identifier

An identifier shows of a name its letters and numbers, and an underscore for every other
character. Two names share an identifier exactly if their wordings agree in that sense.
-/

namespace EntityMapping.Naming

open Unicode

/-- Characters that look the same in an identifier. -/
def Alike (c d : Char) : Prop := c = d ∨ isAlphanumeric c = false ∧ isAlphanumeric d = false

def led (s : List Char) : List Char := if needsLead s then separator :: s else s

theorem isAlphanumeric_separator : isAlphanumeric separator = false := by decide +kernel

theorem isAlphanumeric_of_isDigit {c : Char} (h : c.isDigit = true) : isAlphanumeric c = true := by
  simp only [Char.isDigit, Bool.and_eq_true, decide_eq_true_eq, ge_iff_le, UInt32.le_iff_toNat_le]
    at h
  exact Ranges.covers_iff.mpr ⟨(0x30, 0x39), List.mem_cons_self, h⟩

theorem safeChar_of_alphanumeric {c : Char} (h : isAlphanumeric c = true) : safeChar c = c := by
  simp [safeChar, isIdentifierPart, h]

theorem safeChar_of_not_alphanumeric {c : Char} (h : isAlphanumeric c = false) :
    safeChar c = separator := by
  by_cases hs : c = separator <;> simp [safeChar, isIdentifierPart, h, hs]

theorem isAlphanumeric_safeChar (c : Char) : isAlphanumeric (safeChar c) = isAlphanumeric c := by
  cases hc : isAlphanumeric c with
  | true => rw [safeChar_of_alphanumeric hc, hc]
  | false => rw [safeChar_of_not_alphanumeric hc, isAlphanumeric_separator]

theorem safeChar_eq_safeChar_iff {c d : Char} : safeChar c = safeChar d ↔ Alike c d := by
  constructor
  · intro h
    have hcd : isAlphanumeric c = isAlphanumeric d := by
      rw [← isAlphanumeric_safeChar c, h, isAlphanumeric_safeChar]
    cases hd : isAlphanumeric d with
    | true =>
      rw [safeChar_of_alphanumeric (hcd.trans hd), safeChar_of_alphanumeric hd] at h
      exact .inl h
    | false => exact .inr ⟨hcd.trans hd, hd⟩
  · rintro (rfl | ⟨hc, hd⟩)
    · rfl
    · rw [safeChar_of_not_alphanumeric hc, safeChar_of_not_alphanumeric hd]

theorem isDigit_safeChar (c : Char) : (safeChar c).isDigit = c.isDigit := by
  cases hc : isAlphanumeric c with
  | true => rw [safeChar_of_alphanumeric hc]
  | false =>
    rw [safeChar_of_not_alphanumeric hc]
    cases hd : c.isDigit with
    | false => rfl
    | true => rw [isAlphanumeric_of_isDigit hd] at hc; cases hc

theorem needsLead_map_safeChar (s : List Char) : needsLead (s.map safeChar) = needsLead s := by
  cases s with
  | nil => rfl
  | cons c s => exact isDigit_safeChar c

theorem safeName_eq_map_led (name : String) :
    safeName name = String.ofList ((led name.toList).map safeChar) := by
  simp only [safeName, led, needsLead_map_safeChar]
  split
  · rw [List.map_cons, safeChar_of_not_alphanumeric isAlphanumeric_separator]
  · rfl

theorem safeName_eq_safeName_iff {a b : String} :
    safeName a = safeName b ↔ List.Forall₂ Alike (led a.toList) (led b.toList) := by
  rw [safeName_eq_map_led, safeName_eq_map_led, String.ofList_inj, ← List.forall₂_eq_eq_eq,
    List.forall₂_map_left_iff, List.forall₂_map_right_iff]
  simp only [safeChar_eq_safeChar_iff]

theorem eq_of_forall₂_alike {s t : List Char} (ha : ∀ c ∈ t, isAlphanumeric c = true)
    (h : List.Forall₂ Alike s t) : s = t := by
  induction h with
  | nil => rfl
  | cons hcd _ ih =>
    obtain ⟨hd, ht⟩ := List.forall_mem_cons.mp ha
    rcases hcd with rfl | ⟨-, hn⟩
    · rw [ih ht]
    · rw [hd] at hn
      cases hn

theorem safeName_eq_iff_of_alphanumeric {name identifier : String}
    (hl : needsLead identifier.toList = false)
    (ha : ∀ c ∈ identifier.toList, isAlphanumeric c = true) :
    safeName name = identifier ↔ name = identifier := by
  have hled : led identifier.toList = identifier.toList := by simp [led, hl]
  have hs : safeName identifier = identifier := by
    rw [safeName_eq_map_led, hled,
      List.map_congr_left fun c hc => safeChar_of_alphanumeric (ha c hc), List.map_id']
    exact String.ofList_toList
  constructor
  · intro h
    have hn : led name.toList = identifier.toList := by
      rw [← hs, safeName_eq_safeName_iff, hled] at h
      exact eq_of_forall₂_alike ha h
    unfold led at hn
    split at hn
    · have hm := ha separator (by rw [← hn]; exact List.mem_cons_self)
      rw [isAlphanumeric_separator] at hm
      cases hm
    · exact String.toList_injective hn
  · rintro rfl
    exact hs

namespace Policy

/-- The characters of a name as a policy words it: as they are where names with an underscore keep
their form, and else those of its capitalised words. -/
def wording (p : Policy) (raw : String) : List Char :=
  if p.mode = .suffix ∧ separator ∈ raw.toList then raw.toList else (pascalize raw).toList

/-- Two names that a policy gives the same identifier. -/
def Confuses (p : Policy) (a b : String) : Prop :=
  List.Forall₂ Alike (led (p.wording a)) (led (p.wording b))

variable {p : Policy} {a b raw : String}

theorem property_eq_safeName_wording :
    p.property raw = safeName (String.ofList (p.wording raw)) := by
  unfold property identifier wording
  cases p.mode with
  | plural => simp
  | suffix =>
    unfold preserveOrPascalize
    by_cases hs : separator ∈ raw.toList <;> simp [hs]

theorem property_eq_property_iff : p.property a = p.property b ↔ p.Confuses a b := by
  rw [property_eq_safeName_wording, property_eq_safeName_wording, safeName_eq_safeName_iff,
    String.toList_ofList, String.toList_ofList, Confuses]

theorem property_eq_iff_of_alphanumeric {identifier : String}
    (hl : needsLead identifier.toList = false)
    (ha : ∀ c ∈ identifier.toList, isAlphanumeric c = true) :
    p.property raw = identifier ↔ p.wording raw = identifier.toList := by
  rw [property_eq_safeName_wording, safeName_eq_iff_of_alphanumeric hl ha, ← String.toList_inj,
    String.toList_ofList]

end Policy

end EntityMapping.Naming
