import EntityMapping.Naming.Identifier
import EntityMapping.Proofs.Decimal.Digits
import EntityMapping.SourceText.MappingClass
import Mathlib.Data.List.Basic

/-! # Texts that can be read back

A value is legible if its text tells it apart from all others, whatever text comes after. Literals
end in a quote that they escape within; identifiers end before the first character that cannot be
part of one; a list ends where a text begins that none of its elements begins with.
-/

namespace EntityMapping.SourceText

open Decimal (IsNumeric isNumeric_of_mem_repr intRepr_inj)

section Legible

variable {α : Type} {P : α → Prop} {write : α → List Char} {stop k k' : List Char}

/-- Every two values with the property are equal where their texts agree, and so is what comes
after them. -/
def Legible (P : α → Prop) (write : α → List Char) : Prop :=
  ∀ ⦃a b : α⦄ ⦃s t : List Char⦄, P a → P b → write a ++ s = write b ++ t → a = b ∧ s = t

theorem Legible.before {a b : α} {s t : List Char} (hw : Legible P fun a => write a ++ stop)
    (ha : P a) (hb : P b) (h : write a ++ (stop ++ s) = write b ++ (stop ++ t)) : a = b ∧ s = t :=
  hw ha hb (by simpa using h)

/-- Texts that differ before either of them ends. -/
def Diverge (k k' : List Char) : Prop := ∀ s t, k ++ s ≠ k' ++ t

theorem diverge_iff : Diverge k k' ↔ ¬ k <+: k' ∧ ¬ k' <+: k := by
  constructor
  · intro h
    constructor
    · rintro ⟨s, rfl⟩
      exact h s [] (by simp)
    · rintro ⟨t, rfl⟩
      exact h [] t (by simp)
  · rintro ⟨h, h'⟩ s t he
    rcases List.prefix_or_prefix_of_prefix (List.prefix_append k s) (he ▸ List.prefix_append k' t)
      with hp | hp
    · exact h hp
    · exact h' hp

instance : Decidable (Diverge k k') := decidable_of_iff _ diverge_iff.symm

/-- A list of legible values is legible before a text with which none of them begins. -/
theorem Legible.list (hw : Legible P write) (hs : ∀ a, P a → Diverge (write a) stop) :
    Legible (fun as : List α => ∀ a ∈ as, P a) fun as => as.flatMap write ++ stop := by
  intro as bs s t ha hb h
  simp only [List.append_assoc] at h
  induction as generalizing bs with
  | nil =>
    cases bs with
    | nil => exact ⟨rfl, List.append_cancel_left h⟩
    | cons b bs =>
      rw [List.flatMap_cons, List.append_assoc] at h
      exact (hs b (hb b List.mem_cons_self) _ _ h.symm).elim
  | cons a as ih =>
    obtain ⟨ha, has⟩ := List.forall_mem_cons.mp ha
    rw [List.flatMap_cons, List.append_assoc] at h
    cases bs with
    | nil => exact (hs a ha _ _ h).elim
    | cons b bs =>
      obtain ⟨hb, hbs⟩ := List.forall_mem_cons.mp hb
      rw [List.flatMap_cons, List.append_assoc] at h
      obtain ⟨rfl, hrest⟩ := hw ha hb h
      obtain ⟨rfl, ht⟩ := ih has hbs hrest
      exact ⟨rfl, ht⟩

theorem append_cons_inj {p : Char → Prop} {x y s t : List Char} {c d : Char}
    (hx : ∀ a ∈ x, p a) (hy : ∀ a ∈ y, p a) (hc : ¬ p c) (hd : ¬ p d)
    (h : x ++ c :: s = y ++ d :: t) : x = y ∧ c = d ∧ s = t := by
  induction x generalizing y with
  | nil =>
    cases y with
    | nil => exact ⟨rfl, List.cons.inj h⟩
    | cons b y =>
      obtain ⟨rfl, -⟩ := List.cons.inj h
      exact (hc (hy c List.mem_cons_self)).elim
  | cons a x ih =>
    obtain ⟨ha, hx⟩ := List.forall_mem_cons.mp hx
    cases y with
    | nil =>
      obtain ⟨rfl, -⟩ := List.cons.inj h
      exact (hd ha).elim
    | cons b y =>
      obtain ⟨rfl, h'⟩ := List.cons.inj h
      obtain ⟨rfl, hs⟩ := ih hx (List.forall_mem_cons.mp hy).2 h'
      exact ⟨rfl, hs⟩

end Legible

section Literals

variable {a b : Char} {s t : List Char}

theorem legible_escapeChar : Legible (fun _ => True) escapeChar := by
  intro a b s t _ _ h
  unfold escapeChar at h
  split at h <;> split at h <;> simp_all [eq_comm]

theorem diverge_escapeChar (c : Char) : Diverge (escapeChar c) ['"'] := by
  intro s t h
  unfold escapeChar at h
  split at h <;> simp_all

theorem toList_literal (s : String) :
    (literal s).toList = '"' :: (s.toList.flatMap escapeChar ++ ['"']) := by
  simp [literal]

theorem legible_literal : Legible (fun _ => True) fun s => (literal s).toList := by
  intro a b s t _ _ h
  simp only [toList_literal, List.cons_append, List.cons.injEq, true_and] at h
  obtain ⟨he, ht⟩ := legible_escapeChar.list (fun c _ => diverge_escapeChar c)
    (fun _ _ => trivial) (fun _ _ => trivial) h
  exact ⟨String.toList_inj.mp he, ht⟩

end Literals

theorem legible_number : Legible (fun _ => True) fun i : Int32 => i.toInt.repr.toList ++ [')'] := by
  intro a b s t _ _ h
  have hp : ¬ IsNumeric ')' := by simp [IsNumeric]
  simp only [List.append_assoc, List.singleton_append] at h
  obtain ⟨hr, -, ht⟩ := append_cons_inj (fun _ => isNumeric_of_mem_repr)
    (fun _ => isNumeric_of_mem_repr) hp hp h
  exact ⟨Int32.toInt_inj.mp (intRepr_inj (String.toList_inj.mp hr)), ht⟩

section Selectors

variable {name name' : String} {names names' : List String} {s t : List Char} {c d : Char}

/-- A text of characters that an identifier can hold. -/
def Spelled (name : String) : Prop := ∀ c ∈ name.toList, Naming.isIdentifierPart c

def asciiRanges : Unicode.Ranges := [(0x30, 0x39), (0x41, 0x5A), (0x61, 0x7A)]

theorem asciiRanges_subset : asciiRanges ⊆ Unicode.alphanumericRanges :=
  List.IsPrefix.subset ⟨_, rfl⟩

theorem spelled_of_ascii (h : name.toList.all asciiRanges.covers) : Spelled name := by
  intro c hc
  obtain ⟨r, hr, hcr⟩ := Unicode.Ranges.covers_iff.mp (List.all_eq_true.mp h c hc)
  have ha : Unicode.isAlphanumeric c = true :=
    Unicode.Ranges.covers_iff.mpr ⟨r, asciiRanges_subset hr, hcr⟩
  simp [Naming.isIdentifierPart, ha]

def delimiters : List Char := [' ', ',', ')', '"']

theorem not_isIdentifierPart : ∀ c ∈ delimiters, Naming.isIdentifierPart c = false := by
  have hblank : Unicode.isAlphanumeric ' ' = false := by decide +kernel
  have hcomma : Unicode.isAlphanumeric ',' = false := by decide +kernel
  have hparen : Unicode.isAlphanumeric ')' = false := by decide +kernel
  have hquote : Unicode.isAlphanumeric '"' = false := by decide +kernel
  simp [delimiters, Naming.isIdentifierPart, Naming.separator, hblank, hcomma, hparen, hquote]

theorem Spelled.append_cons_inj (hn : Spelled name) (hn' : Spelled name') (hc : c ∈ delimiters)
    (hd : d ∈ delimiters) (h : name.toList ++ c :: s = name'.toList ++ d :: t) :
    name = name' ∧ c = d ∧ s = t := by
  obtain ⟨he, h⟩ := SourceText.append_cons_inj hn hn' (by simp [not_isIdentifierPart c hc])
    (by simp [not_isIdentifierPart d hd]) h
  exact ⟨String.toList_inj.mp he, h⟩

theorem legible_spelled (hc : c ∈ delimiters) : Legible Spelled fun name => name.toList ++ [c] := by
  intro a b s t ha hb h
  simp only [List.append_assoc, List.singleton_append] at h
  obtain ⟨rfl, -, ht⟩ := ha.append_cons_inj hb hc hc h
  exact ⟨rfl, ht⟩

def furtherMembers (names : List String) : List Char :=
  names.flatMap fun name => ',' :: ' ' :: 'e' :: '.' :: name.toList

@[simp] theorem furtherMembers_nil : furtherMembers [] = [] := rfl

@[simp] theorem furtherMembers_cons : furtherMembers (name :: names) =
    ',' :: ' ' :: 'e' :: '.' :: (name.toList ++ furtherMembers names) := rfl

theorem toList_members (name : String) (names : List String) :
    (", ".intercalate ((name :: names).map (member "e"))).toList =
      'e' :: '.' :: (name.toList ++ furtherMembers names) := by
  rw [String.toList_intercalate]
  induction names generalizing name with
  | nil => simp [member]
  | cons next names ih =>
    have hi := ih next
    simp only [List.map_cons] at hi ⊢
    rw [List.intercalate_cons_cons, hi]
    simp [member]

theorem furtherMembers_inj (hn : Spelled name) (hn' : Spelled name')
    (h : ∀ n ∈ names, Spelled n) (h' : ∀ n ∈ names', Spelled n)
    (he : name.toList ++ (furtherMembers names ++ ' ' :: s) =
      name'.toList ++ (furtherMembers names' ++ ' ' :: t)) :
    name = name' ∧ names = names' ∧ s = t := by
  have hblank : ' ' ∈ delimiters := by decide
  have hcomma : ',' ∈ delimiters := by decide
  induction names generalizing name name' names' with
  | nil =>
    cases names' with
    | nil =>
      obtain ⟨rfl, -, ht⟩ := hn.append_cons_inj hn' hblank hblank he
      exact ⟨rfl, rfl, ht⟩
    | cons next' names' =>
      obtain ⟨-, hc, -⟩ := hn.append_cons_inj hn' hblank hcomma he
      cases hc
  | cons next names ih =>
    cases names' with
    | nil =>
      obtain ⟨-, hc, -⟩ := hn.append_cons_inj hn' hcomma hblank he
      cases hc
    | cons next' names' =>
      obtain ⟨hnext, hnames⟩ := List.forall_mem_cons.mp h
      obtain ⟨hnext', hnames'⟩ := List.forall_mem_cons.mp h'
      simp only [furtherMembers_cons, List.cons_append, List.append_assoc] at he
      obtain ⟨rfl, -, hrest⟩ := hn.append_cons_inj hn' hcomma hcomma he
      simp only [List.cons.injEq, true_and] at hrest
      obtain ⟨rfl, rfl, ht⟩ := ih hnext hnext' hnames hnames' hrest
      exact ⟨rfl, rfl, ht⟩

theorem toList_entitySelector_singleton (name : String) :
    (entitySelector [name]).toList = "e => e.".toList ++ name.toList := by
  simp [entitySelector, memberSelector, member]

theorem toList_entitySelector_nil : (entitySelector []).toList = "e => new \x7b  \x7d".toList := by
  decide

theorem toList_entitySelector_cons_cons (first second : String) (names : List String) :
    (entitySelector (first :: second :: names)).toList =
      "e => new \x7b e.".toList ++
        (first.toList ++ (furtherMembers (second :: names) ++ " \x7d".toList)) := by
  simp only [entitySelector, memberSelector, String.toList_append, toList_members]
  simp

theorem legible_entitySelector : Legible (fun names => ∀ name ∈ names, Spelled name)
    fun names => (entitySelector names).toList ++ [')'] := by
  intro as bs s t ha hb h
  rcases as with _ | ⟨a, _ | ⟨a', as⟩⟩ <;> rcases bs with _ | ⟨b, _ | ⟨b', bs⟩⟩ <;>
    simp only [toList_entitySelector_nil, toList_entitySelector_singleton,
      toList_entitySelector_cons_cons, List.append_assoc] at h
  case nil.nil => exact ⟨rfl, List.append_cancel_left (List.append_cancel_left h)⟩
  case cons.nil.cons.nil =>
    have hparen : ')' ∈ delimiters := by decide
    obtain ⟨rfl, ht⟩ := (legible_spelled hparen).before (ha a List.mem_cons_self)
      (hb b List.mem_cons_self) (List.append_cancel_left h)
    exact ⟨rfl, ht⟩
  case cons.cons.cons.cons =>
    obtain ⟨ha, has⟩ := List.forall_mem_cons.mp ha
    obtain ⟨hb, hbs⟩ := List.forall_mem_cons.mp hb
    obtain ⟨rfl, hn, ht⟩ := furtherMembers_inj ha hb has hbs (List.append_cancel_left h)
    simp at ht
    exact ⟨by rw [hn], ht⟩
  all_goals simp at h

end Selectors

end EntityMapping.SourceText
