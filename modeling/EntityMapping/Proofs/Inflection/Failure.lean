import EntityMapping.Inflection.Number
import EntityMapping.Proofs.Outcome
import Mathlib.Data.List.Basic

/-! # Words that cannot be inflected

A new form cannot take the letter case of a capitalised word if it begins beyond ASCII. No form in
the tables does so, which leaves the parts of a word that a rule writes into its replacement. They
are taken from the word, so that words within ASCII can always be inflected.
-/

namespace EntityMapping.Inflection

open Outcome Unicode

/-- A word that is neither in lower nor in upper case and begins with a capital. -/
structure Capitalised (word : List Char) : Prop where
  not_lower : word ≠ lower word
  not_upper : word ≠ upper word
  head : word.head?.any isUppercase

/-- An outcome without a form. -/
def Fails {α : Type} (r : Except CaseFault α) : Prop := ∃ fault, r = .error fault

section Fails

variable {α β : Type} {x : Except CaseFault α} {f : α → Except CaseFault β}

theorem not_fails_pure {a : α} : ¬ Fails (pure a : Except CaseFault α) := nofun

theorem not_fails_iff : ¬ Fails x ↔ ∃ a, x = .ok a := by
  cases x <;> simp [Fails]

theorem fails_bind_iff : Fails (x >>= f) ↔ Fails x ∨ ∃ a, x = .ok a ∧ Fails (f a) := by
  cases x <;> simp [Fails, bind, Except.bind]

theorem fails_bind_pure_iff {g : α → β} : Fails (x >>= fun a => pure (g a)) ↔ Fails x := by
  cases x <;> simp [Fails, bind, Except.bind, pure, Except.pure]

end Fails

section Rules

variable {word form : List Char} {rules : List Rule} {rule : Rule}

theorem fails_restoreCase_iff :
    Fails (restoreCase word form) ↔
      Capitalised word ∧ form ≠ word ∧ startsInAscii form = false := by
  have hne : startsInAscii form = false → form.isEmpty = false := by
    cases form <;> simp [startsInAscii]
  unfold restoreCase
  split_ifs with he hl hu hc hs
  · exact iff_of_false not_fails_pure fun h => h.2.1 he.symm
  · exact iff_of_false not_fails_pure fun h => h.1.not_lower hl
  · exact iff_of_false not_fails_pure fun h => h.1.not_upper hu
  · exact iff_of_false not_fails_pure fun h => by simp [hs] at h
  · refine iff_of_true ⟨_, rfl⟩ ⟨⟨hl, hu, ?_⟩, Ne.symm he, by simpa using hs⟩
    exact (Bool.and_eq_true_iff.mp hc).1
  · refine iff_of_false not_fails_pure fun h => hc ?_
    rw [h.1.head, hne h.2.2]
    rfl

theorem fails_fillParts_iff {parts : List (List Char)} {digit : Nat} {text : List Char} :
    Fails (fillParts word parts digit text) ↔ ∃ part ∈ parts, Fails (restoreCase word part) := by
  induction parts generalizing digit text with
  | nil => exact iff_of_false not_fails_pure (by simp)
  | cons part parts ih =>
    rw [fillParts, fails_bind_iff, List.exists_mem_cons_iff]
    simp only [ih]
    constructor
    · exact fun h => h.imp_right fun ⟨_, _, h⟩ => h
    · rintro (h | h)
      · exact .inl h
      · by_cases hp : Fails (restoreCase word part)
        · exact .inl hp
        · obtain ⟨image, hi⟩ := not_fails_iff.mp hp
          exact .inr ⟨image, hi, h⟩

def firstMatch (word : List Char) (rules : List Rule) : Option Occurrence :=
  rules.findSome? fun rule => rule.pattern.find? word

/-- A part of the word at the place where a rule applies that cannot take the word's letter case. -/
def Obstructed (word : List Char) (rules : List Rule) : Prop :=
  ∃ o, firstMatch word rules = some o ∧
    ∃ part ∈ o.parts, part ≠ word ∧ startsInAscii part = false

theorem fails_apply?_iff (hr : startsInAscii rule.replacement.toList) :
    (Fails <| rule.apply? word) ↔ ∃ o, rule.pattern.find? word = some o ∧
      ∃ part ∈ o.parts, Fails (restoreCase word part) := by
  have hw : ¬ Fails (restoreCase word rule.replacement.toList) := by
    rw [fails_restoreCase_iff, hr]
    exact fun h => nomatch h.2.2
  unfold Rule.apply?
  cases rule.pattern.find? word with
  | none => exact iff_of_false not_fails_pure fun ⟨_, h, _⟩ => nomatch h
  | some o =>
    obtain ⟨form, hf⟩ := not_fails_iff.mp hw
    simp only [Option.some.injEq, exists_eq_left']
    rw [hf]
    exact fails_bind_pure_iff.trans fails_fillParts_iff

theorem apply?_of_find?_eq_none (h : rule.pattern.find? word = none) :
    rule.apply? word = .ok none := by
  unfold Rule.apply?
  rw [h]
  rfl

theorem ne_none_of_apply? {o : Occurrence} (h : rule.pattern.find? word = some o) :
    rule.apply? word ≠ .ok none := by
  unfold Rule.apply?
  rw [h]
  intro he
  obtain ⟨form, -, he⟩ := bind_eq_ok_iff.mp he
  obtain ⟨text, -, he⟩ := bind_eq_ok_iff.mp he
  cases he

theorem fails_applyFirst_iff (hr : ∀ rule ∈ rules, startsInAscii rule.replacement.toList) :
    Fails (applyFirst word rules) ↔ Capitalised word ∧ Obstructed word rules := by
  induction rules with
  | nil => exact iff_of_false not_fails_pure fun ⟨_, _, h, _⟩ => nomatch h
  | cons rule rules ih =>
    obtain ⟨hrule, hrules⟩ := List.forall_mem_cons.mp hr
    unfold applyFirst Obstructed firstMatch
    rw [List.findSome?_cons, fails_bind_iff]
    cases hm : rule.pattern.find? word with
    | none =>
      simp only [apply?_of_find?_eq_none hm, Except.ok.injEq, exists_eq_left', ih hrules]
      exact or_iff_right fun ⟨_, h⟩ => nomatch h
    | some o =>
      refine (or_iff_left ?_).trans ?_
      · rintro ⟨_ | result, ha, hf⟩
        · exact ne_none_of_apply? hm ha
        · exact not_fails_pure hf
      rw [fails_apply?_iff hrule, hm]
      simp only [Option.some.injEq, exists_eq_left', fails_restoreCase_iff]
      constructor
      · exact fun ⟨part, hp, hc, h⟩ => ⟨hc, part, hp, h⟩
      · exact fun ⟨hc, part, hp, h⟩ => ⟨part, hp, hc, h⟩

end Rules

/-! ## Words and tables -/

section Words

variable {key form word : String} {pairs replaced kept : List (String × String)}
  {rules : List Rule}

theorem mem_of_lookupLast (h : lookupLast key pairs = some form) : (key, form) ∈ pairs := by
  obtain ⟨before, after, hp, -⟩ := List.lookup_eq_some_iff.mp h
  rw [← List.mem_reverse, hp]
  simp

theorem lookupLast_eq_none_iff : lookupLast key pairs = none ↔ ∀ p ∈ pairs, key ≠ p.1 := by
  simp [lookupLast, List.lookup_eq_none_iff]

/-- The word in lower case, in which it is looked up. -/
def token (word : String) : String := String.ofList (lower word.toList)

/-- A word that takes its form from a rule. -/
structure Regular (word : String) : Prop where
  ne_empty : token word ≠ ""
  not_irregular : ∀ p ∈ irregularPairs, token word ≠ p.1 ∧ token word ≠ p.2
  not_uncountable : token word ∉ uncountableWords

/-- A capitalised word in which the rules come upon a part that begins beyond ASCII. -/
structure Resists (rules : List Rule) (word : String) : Prop where
  capitalised : Capitalised word.toList
  regular : Regular word
  obstructed : Obstructed word.toList (rules ++ Rule.unchanged).reverse

theorem not_fails_ofList_restoreCase {form : List Char} (h : startsInAscii form) :
    ¬ Fails (do return String.ofList (← restoreCase word.toList form)) := by
  rw [fails_bind_pure_iff, fails_restoreCase_iff, h]
  exact fun h => nomatch h.2.2

theorem fails_inflect_iff (hk : ∀ p ∈ kept, startsInAscii p.1.toList)
    (hp : ∀ p ∈ replaced, startsInAscii p.2.toList)
    (hr : ∀ rule ∈ rules ++ Rule.unchanged, startsInAscii rule.replacement.toList) :
    Fails (inflect replaced kept rules word) ↔
      (∀ p ∈ kept, token word ≠ p.1) ∧ (∀ p ∈ replaced, token word ≠ p.1) ∧
        token word ≠ "" ∧ token word ∉ uncountableWords ∧ Capitalised word.toList ∧
        Obstructed word.toList (rules ++ Rule.unchanged).reverse := by
  rw [← lookupLast_eq_none_iff, ← lookupLast_eq_none_iff]
  unfold inflect
  -- The token is looked up in both tables before a rule is tried, so the cases follow the lookups.
  extract_lets t
  have ht : t = token word := rfl
  clear_value t
  subst ht
  cases hkept : lookupLast (token word) kept with
  | some form =>
    rw [Option.isSome_some, if_pos rfl]
    refine iff_of_false (not_fails_ofList_restoreCase ?_) fun h => nomatch h.1
    exact hk (token word, form) (mem_of_lookupLast hkept)
  | none =>
    rw [Option.isSome_none, if_neg Bool.false_ne_true]
    cases hreplaced : lookupLast (token word) replaced with
    | some form =>
      refine iff_of_false (not_fails_ofList_restoreCase ?_) fun h => nomatch h.2.1
      exact hp (token word, form) (mem_of_lookupLast hreplaced)
    | none =>
      dsimp only
      split_ifs with he
      · refine iff_of_false not_fails_pure fun ⟨_, _, hn, hu, _⟩ => ?_
        rcases Bool.or_eq_true_iff.mp he with he | he
        · exact hn (String.isEmpty_iff.mp he)
        · exact hu (List.contains_iff_mem.mp he)
      · have hn : token word ≠ "" := fun hn => he (by simp [hn])
        have hu : token word ∉ uncountableWords := fun hu => he (by simp [hu])
        rw [fails_bind_pure_iff,
          fails_applyFirst_iff fun rule hm => hr rule (List.mem_reverse.mp hm)]
        exact ⟨fun h => ⟨rfl, rfl, hn, hu, h⟩, fun h => h.2.2.2.2⟩

theorem startsInAscii_irregularPairs :
    ∀ p ∈ irregularPairs, startsInAscii p.1.toList ∧ startsInAscii p.2.toList := by
  decide

theorem startsInAscii_replacement :
    ∀ rules ∈ [Rule.plural, Rule.singular], ∀ rule ∈ rules ++ Rule.unchanged,
      startsInAscii rule.replacement.toList := by
  decide

theorem fails_pluralize_iff : Fails (pluralize word) ↔ Resists Rule.plural word := by
  rw [pluralize, fails_inflect_iff]
  · constructor
    · rintro ⟨hk, hp, hn, hu, hc, ho⟩
      refine ⟨hc, ⟨hn, fun p hm => ⟨hp p hm, hk (p.2, p.1) (List.mem_map_of_mem hm)⟩, hu⟩, ho⟩
    · rintro ⟨hc, ⟨hn, hi, hu⟩, ho⟩
      exact ⟨List.forall_mem_map.mpr fun p hm => (hi p hm).2, fun p hm => (hi p hm).1, hn, hu, hc, ho⟩
  · exact List.forall_mem_map.mpr fun p hm => (startsInAscii_irregularPairs p hm).2
  · exact fun p hm => (startsInAscii_irregularPairs p hm).2
  · exact startsInAscii_replacement Rule.plural (by simp)

theorem fails_singularize_iff : Fails (singularize word) ↔ Resists Rule.singular word := by
  rw [singularize, fails_inflect_iff]
  · constructor
    · rintro ⟨hk, hp, hn, hu, hc, ho⟩
      refine ⟨hc, ⟨hn, fun p hm => ⟨hk p hm, hp (p.2, p.1) (List.mem_map_of_mem hm)⟩, hu⟩, ho⟩
    · rintro ⟨hc, ⟨hn, hi, hu⟩, ho⟩
      exact ⟨fun p hm => (hi p hm).1, List.forall_mem_map.mpr fun p hm => (hi p hm).2, hn, hu, hc, ho⟩
  · exact fun p hm => (startsInAscii_irregularPairs p hm).1
  · exact List.forall_mem_map.mpr fun p hm => (startsInAscii_irregularPairs p hm).1
  · exact startsInAscii_replacement Rule.singular (by simp)

end Words

/-! ## Parts of a word -/

section Parts

variable {P : Char → Prop} {c c' start : Cursor} {p : Pattern} {s before : List Char}
  {o : Occurrence} {rules : List Rule} {word : String}

structure Cursor.All (P : Char → Prop) (c : Cursor) : Prop where
  before : ∀ x ∈ c.before, P x
  after : ∀ x ∈ c.after, P x
  groups : ∀ g ∈ c.groups, ∀ x ∈ g, P x

theorem Cursor.All.since (h : c.All P) : ∀ x ∈ c.since start, P x :=
  fun x hx => h.before x (List.mem_of_mem_take (List.mem_reverse.mp hx))

theorem Cursor.All.take (h : c.All P) : (c.take start).All P where
  before := h.before
  after := h.after
  groups g hg := by
    rcases List.mem_append.mp hg with hg | hg
    · exact h.groups g hg
    · rw [List.mem_singleton.mp hg]
      exact h.since

/-- A match moves characters of the word and takes groups from those before it. -/
theorem Pattern.all_of_mem_run (h : c.All P) (hm : c' ∈ p.run c) : c'.All P := by
  induction p generalizing c c' with
  | empty =>
    rw [List.mem_singleton.mp hm]
    exact h
  | char accepts =>
    unfold run at hm
    split at hm
    next => cases hm
    next x rest ha =>
      split at hm
      · rw [List.mem_singleton.mp hm]
        obtain ⟨hx, hr⟩ := List.forall_mem_cons.mp (ha ▸ h.after)
        exact ⟨List.forall_mem_cons.mpr ⟨hx, h.before⟩, hr, h.groups⟩
      · cases hm
  | seq p q ihp ihq =>
    obtain ⟨d, hd, hm⟩ := List.mem_flatMap.mp hm
    exact ihq (ihp h hd) hm
  | alt p q ihp ihq => exact (List.mem_append.mp hm).elim (ihp h) (ihq h)
  | opt p ih =>
    rcases List.mem_append.mp hm with hm | hm
    · exact ih h hm
    · rw [List.mem_singleton.mp hm]
      exact h
  | group p ih =>
    obtain ⟨d, hd, rfl⟩ := List.mem_map.mp hm
    exact (ih h hd).take
  | atStart | atEnd | boundary =>
    unfold run at hm
    split at hm
    · rw [List.mem_singleton.mp hm]
      exact h
    · cases hm

theorem all_of_occurrenceAt? (hb : ∀ x ∈ before, P x) (hs : ∀ x ∈ s, P x)
    (h : p.occurrenceAt? before s = some o) : ∀ part ∈ o.parts, ∀ x ∈ part, P x := by
  obtain ⟨c, hc, rfl⟩ := Option.map_eq_some_iff.mp h
  have ha : c.All P :=
    Pattern.all_of_mem_run (c := ⟨before, s, []⟩) ⟨hb, hs, nofun⟩ (List.mem_of_head? hc)
  exact List.forall_mem_cons.mpr ⟨ha.since, ha.groups⟩

theorem all_of_findAfter (hb : ∀ x ∈ before, P x) (hs : ∀ x ∈ s, P x)
    (h : p.findAfter before s = some o) : ∀ part ∈ o.parts, ∀ x ∈ part, P x := by
  induction s generalizing before with
  | nil => exact all_of_occurrenceAt? hb hs h
  | cons a s ih =>
    unfold Pattern.findAfter at h
    split at h
    next ho =>
      cases h
      exact all_of_occurrenceAt? hb hs ho
    next =>
      obtain ⟨ha, hs⟩ := List.forall_mem_cons.mp hs
      exact ih (List.forall_mem_cons.mpr ⟨ha, hb⟩) hs h

def Ascii (s : String) : Prop := ∀ c ∈ s.toList, c.toNat < 0x80

theorem Ascii.not_resists (h : Ascii word) : ¬ Resists rules word := by
  rintro ⟨-, -, o, ho, part, hp, -, hs⟩
  obtain ⟨rule, -, hf⟩ := List.exists_of_findSome?_eq_some ho
  have ha : ∀ x ∈ part, x.toNat < 0x80 := all_of_findAfter nofun h hf part hp
  cases part with
  | nil => cases hs
  | cons c part =>
    have hc : c.toNat < 0x80 := ha c List.mem_cons_self
    simp [startsInAscii, hc] at hs

end Parts

end EntityMapping.Inflection
