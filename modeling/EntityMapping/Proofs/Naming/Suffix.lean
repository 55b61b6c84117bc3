import EntityMapping.Naming.Policy
import EntityMapping.Proofs.Outcome

/-! # Names without their suffix

A suffix is taken off a name that ends in it, in its plural form if the name ends so. What is left
is neither empty nor the whole name; every other name is kept as it is. Where the suffix has a
plural, every name has something left of it, and the ending that it lost is known from the name.
-/

namespace EntityMapping.Naming

open Inflection Text Outcome

/-- What a suffix leaves of a name. -/
def Sheds (suffix raw rest : String) : Prop :=
  rest ≠ "" ∧ rest ≠ raw ∧ ∃ plural, pluralize suffix = .ok plural ∧
    (raw = rest ++ plural ∨ raw = rest ++ suffix ∧ ∀ x, raw ≠ x ++ plural)

variable {suffix raw rest : String}

theorem dropEnding?_eq_ofList_iff {ending : String} {s : List Char} :
    dropEnding? ending.toList raw.toList = some s ↔ raw = String.ofList s ++ ending := by
  rw [dropEnding?_eq_some_iff, ← String.toList_inj, String.toList_append, String.toList_ofList]

theorem dropEnding?_eq_none_iff {ending : String} :
    dropEnding? ending.toList raw.toList = none ↔ ∀ x, raw ≠ x ++ ending := by
  rw [Option.eq_none_iff_forall_ne_some]
  constructor
  · rintro h x rfl
    refine h x.toList (dropEnding?_eq_ofList_iff.mpr ?_)
    rw [String.ofList_toList]
  · exact fun h s hs => h _ (dropEnding?_eq_ofList_iff.mp hs)

theorem pluralize_empty : pluralize "" = .ok "" := by decide +kernel

theorem Sheds.suffix_ne_empty (h : Sheds suffix raw rest) : suffix ≠ "" := by
  rintro rfl
  obtain ⟨-, hne, plural, hp, hd⟩ := h
  cases pluralize_empty.symm.trans hp
  rcases hd with rfl | ⟨rfl, -⟩
  · exact hne String.append_empty.symm
  · exact hne String.append_empty.symm

theorem stripSuffix_of_sheds (h : Sheds suffix raw rest) : stripSuffix raw suffix = .ok rest := by
  have hs : suffix.isEmpty = false := by simpa using h.suffix_ne_empty
  obtain ⟨hn, -, plural, hp, hd⟩ := h
  have hd : (dropEnding? plural.toList raw.toList).or (dropEnding? suffix.toList raw.toList) =
      some rest.toList := by
    rw [Option.or_eq_some_iff, dropEnding?_eq_none_iff, dropEnding?_eq_ofList_iff,
      dropEnding?_eq_ofList_iff, String.ofList_toList]
    rcases hd with hd | ⟨hd, hx⟩
    · exact .inl hd
    · exact .inr ⟨hx, hd⟩
  obtain ⟨c, cs, hr⟩ := List.exists_cons_of_ne_nil (String.toList_eq_nil_iff.not.mpr hn)
  have hrest : String.ofList (c :: cs) = rest := by rw [← hr, String.ofList_toList]
  rw [hr] at hd
  simp only [stripSuffix, hs, Bool.false_eq_true, if_false]
  refine bind_eq_ok_iff.mpr ⟨plural, hp, ?_⟩
  simp only [hd, hrest]
  rfl

theorem sheds_iff : Sheds suffix raw rest ↔ rest ≠ raw ∧ stripSuffix raw suffix = .ok rest := by
  constructor
  · exact fun h => ⟨h.2.1, stripSuffix_of_sheds h⟩
  rintro ⟨hne, h⟩
  unfold stripSuffix at h
  split at h
  · cases h
    exact (hne rfl).elim
  obtain ⟨plural, hp, h⟩ := bind_eq_ok_iff.mp h
  dsimp only at h
  split at h
  next => exact (hne (pure_eq_ok_iff.mp h)).elim
  next => exact (hne (pure_eq_ok_iff.mp h)).elim
  next s hs hd =>
    obtain rfl := pure_eq_ok_iff.mp h
    rw [Option.or_eq_some_iff, dropEnding?_eq_none_iff, dropEnding?_eq_ofList_iff,
      dropEnding?_eq_ofList_iff] at hd
    refine ⟨fun he => hs (String.ofList_eq_empty_iff.mp he), hne, plural, hp, ?_⟩
    · rcases hd with hd | ⟨hx, hd⟩
      · exact .inl hd
      · exact .inr ⟨hd, hx⟩

/-! ## The ending that is taken off -/

/-- What is left of a name when a suffix with the given plural is taken off. -/
structure Strips (suffix plural raw rest : String) : Prop where
  tail : ∃ tail, raw = rest ++ tail ∧ (tail = "" ∨ tail = plural ∨ tail = suffix)
  nonempty : rest = "" → raw = ""
  loses_plural : ∀ stem, stem ≠ "" → raw = stem ++ plural → rest = stem
  loses_suffix : ∀ stem, stem ≠ "" → raw = stem ++ suffix → (∀ x, raw ≠ x ++ plural) → rest = stem
  whole : raw = plural ∨ (∀ x, raw ≠ x ++ plural ∧ raw ≠ x ++ suffix) → rest = raw

/-- The name is this stem with the plural behind it, or with the suffix if the plural is not. -/
def Bears (suffix plural raw stem : String) : Prop :=
  raw = stem ++ plural ∨ raw = stem ++ suffix ∧ ∀ x, raw ≠ x ++ plural

variable {plural stem : String}

theorem Bears.unique (h : Bears suffix plural raw rest) (h' : Bears suffix plural raw stem) :
    rest = stem := by
  rcases h with h | ⟨h, hx⟩ <;> rcases h' with h' | ⟨h', hx'⟩
  · exact (String.append_left_inj plural).mp (h.symm.trans h')
  · exact (hx' rest h).elim
  · exact (hx stem h').elim
  · exact (String.append_left_inj suffix).mp (h.symm.trans h')

theorem sheds_iff_of_pluralize (h : pluralize suffix = .ok plural) :
    Sheds suffix raw rest ↔ rest ≠ "" ∧ rest ≠ raw ∧ Bears suffix plural raw rest := by
  constructor
  · rintro ⟨hn, hne, other, ho, hd⟩
    cases h.symm.trans ho
    exact ⟨hn, hne, hd⟩
  · rintro ⟨hn, hne, hd⟩
    exact ⟨hn, hne, plural, h, hd⟩

theorem exists_stripSuffix (h : pluralize suffix = .ok plural) (raw : String) :
    ∃ rest, stripSuffix raw suffix = .ok rest := by
  unfold stripSuffix
  split
  · exact ⟨raw, rfl⟩
  · rw [h, ok_bind]
    dsimp only
    split
    next => exact ⟨raw, rfl⟩
    next => exact ⟨raw, rfl⟩
    next s _ _ => exact ⟨String.ofList s, rfl⟩

theorem bears_of_stripSuffix (h : pluralize suffix = .ok plural)
    (hr : stripSuffix raw suffix = .ok rest) (hne : rest ≠ raw) :
    rest ≠ "" ∧ Bears suffix plural raw rest := by
  obtain ⟨hn, -, hb⟩ := (sheds_iff_of_pluralize h).mp (sheds_iff.mpr ⟨hne, hr⟩)
  exact ⟨hn, hb⟩

theorem Bears.eq_of_stripSuffix (hb : Bears suffix plural raw stem)
    (h : pluralize suffix = .ok plural) (hn : stem ≠ "") (hr : stripSuffix raw suffix = .ok rest) :
    rest = stem := by
  by_cases hw : stem = raw
  · by_contra hne
    exact hne ((bears_of_stripSuffix h hr (hw ▸ hne)).2.unique hb)
  · have hs := stripSuffix_of_sheds ((sheds_iff_of_pluralize h).mpr ⟨hn, hw, hb⟩)
    exact Except.ok.inj (hr.symm.trans hs)

/-- A name loses the plural of the suffix where it ends so, or else the suffix where it ends so,
but not the whole of itself; other names lose nothing. -/
theorem stripSuffix_strips (h : pluralize suffix = .ok plural) (raw : String) :
    ∃ rest, stripSuffix raw suffix = .ok rest ∧ Strips suffix plural raw rest := by
  obtain ⟨rest, hr⟩ := exists_stripSuffix h raw
  refine ⟨rest, hr, ?_, ?_, ?_, ?_, ?_⟩
  · by_cases hw : rest = raw
    · exact ⟨"", by rw [hw, String.append_empty], .inl rfl⟩
    · rcases (bears_of_stripSuffix h hr hw).2 with hd | ⟨hd, -⟩
      · exact ⟨plural, hd, .inr (.inl rfl)⟩
      · exact ⟨suffix, hd, .inr (.inr rfl)⟩
  · intro he
    by_contra hne
    exact (bears_of_stripSuffix h hr (he ▸ Ne.symm hne)).1 he
  · intro stem hn hd
    exact Bears.eq_of_stripSuffix (.inl hd) h hn hr
  · intro stem hn hd hx
    exact Bears.eq_of_stripSuffix (.inr ⟨hd, hx⟩) h hn hr
  · intro hw
    by_contra hne
    obtain ⟨hn, hb⟩ := bears_of_stripSuffix h hr hne
    rcases hw with rfl | hw
    · have he : Bears suffix raw raw "" := .inl String.empty_append.symm
      exact hn (hb.unique he)
    · rcases hb with hd | ⟨hd, -⟩
      · exact (hw rest).1 hd
      · exact (hw rest).2 hd

theorem stripSuffix_strips_entities :
    pluralize "Entity" = .ok "Entities" ∧
      stripSuffix "OrderEntities" "Entity" = .ok "Order" ∧
      Strips "Entity" "Entities" "OrderEntities" "Order" := by
  have hp : pluralize "Entity" = .ok "Entities" := by decide +kernel
  obtain ⟨rest, hr, hs⟩ := stripSuffix_strips hp "OrderEntities"
  obtain rfl := hs.loses_plural "Order" (by decide) (by decide)
  exact ⟨hp, hr, hs⟩

end EntityMapping.Naming
