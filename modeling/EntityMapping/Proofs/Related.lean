import Mathlib.Data.List.Forall2

/-! # Lists related element by element

A list has a related one as soon as each of its elements has one. Where the relation is a function,
the related list repeats an element exactly if two elements are sent to it.
-/

namespace EntityMapping

variable {α β : Type} {R : α → β → Prop} {as : List α} {bs : List β} {a : α} {b : β}

theorem exists_forall₂_iff : (∃ bs, List.Forall₂ R as bs) ↔ ∀ a ∈ as, ∃ b, R a b := by
  induction as with
  | nil => simp
  | cons a as ih =>
    rw [List.forall_mem_cons, ← ih]
    constructor
    · rintro ⟨_, _ | ⟨hab, hs⟩⟩
      exact ⟨⟨_, hab⟩, _, hs⟩
    · rintro ⟨⟨b, hab⟩, bs, hs⟩
      exact ⟨b :: bs, .cons hab hs⟩

theorem exists_of_mem_forall₂ (h : List.Forall₂ R as bs) (ha : a ∈ as) : ∃ b, R a b :=
  exists_forall₂_iff.mp ⟨bs, h⟩ a ha

theorem mem_iff_of_forall₂ (h : List.Forall₂ R as bs) (hu : Relator.RightUnique R) :
    b ∈ bs ↔ ∃ a ∈ as, R a b := by
  induction h with
  | nil => simp
  | cons hab _ ih =>
    rw [List.mem_cons, ih, List.exists_mem_cons_iff]
    refine or_congr_left ⟨?_, fun h => hu h hab⟩
    rintro rfl
    exact hab

theorem nodup_iff_of_forall₂ (h : List.Forall₂ R as bs) (ha : as.Nodup)
    (hu : Relator.RightUnique R) :
    bs.Nodup ↔ ∀ a ∈ as, ∀ a' ∈ as, ∀ b, R a b → R a' b → a = a' := by
  induction h with
  | nil => simp
  | @cons a b as bs hab hs ih =>
    obtain ⟨hn, ha⟩ := List.nodup_cons.mp ha
    rw [List.nodup_cons, ih ha, mem_iff_of_forall₂ hs hu]
    constructor
    · rintro ⟨hb, hi⟩ c hc d hd x hcx hdx
      have hx : ∀ e ∈ as, ¬ R e b := fun e he h => hb ⟨e, he, h⟩
      rcases List.mem_cons.mp hc with rfl | hca <;> rcases List.mem_cons.mp hd with rfl | hda
      · rfl
      · exact (hx d hda (hu hcx hab ▸ hdx)).elim
      · exact (hx c hca (hu hdx hab ▸ hcx)).elim
      · exact hi c hca d hda x hcx hdx
    · intro hi
      refine ⟨?_, fun c hc d hd => hi c (.tail _ hc) d (.tail _ hd)⟩
      rintro ⟨c, hc, hcb⟩
      obtain rfl := hi a List.mem_cons_self c (.tail _ hc) b hab hcb
      exact hn hc

def keptBeside (keep : α → Bool) (as : List α) (bs : List β) : List β :=
  ((as.zip bs).filter (keep ·.1)).map Prod.snd

theorem forall₂_keptBeside (keep : α → Bool) (h : List.Forall₂ R as bs) :
    List.Forall₂ R (as.filter keep) (keptBeside keep as bs) := by
  induction h with
  | nil => exact .nil
  | @cons a b as bs hab _ ih =>
    cases hk : keep a <;> simpa [keptBeside, hk, hab] using ih

theorem keptBeside_sublist (keep : α → Bool) (h : as.length = bs.length) :
    (keptBeside keep as bs).Sublist bs := by
  have hs := (List.filter_sublist (p := (keep ·.1)) (l := as.zip bs)).map Prod.snd
  rwa [List.map_snd_zip (Nat.le_of_eq h.symm)] at hs

end EntityMapping
