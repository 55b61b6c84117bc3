import EntityMapping.Plan.Defaults
import EntityMapping.Proofs.Text.Trimming
import Mathlib.Data.List.Infix

/-! # Parentheses around default values

Read from left to right, an expression opens and closes parentheses, and quotes within which they
do not count. A pair is taken off an expression that begins with a parenthesis and ends with one,
if what is between them closes nothing but what it has opened. In a balanced expression these are
the pairs that match. In any other, what is between them has left something open.
-/

namespace EntityMapping.DefaultValue

open Text Unicode

/-- How many parentheses are open, and whether a quote is. -/
structure Nesting where
  depth : Int := 0
  quoted : Bool := false
  deriving DecidableEq

namespace Nesting

def step (n : Nesting) (c : Char) : Nesting :=
  if c = '\'' then { n with quoted := !n.quoted }
  else if n.quoted then n
  else if c = '(' then { n with depth := n.depth + 1 }
  else if c = ')' then { n with depth := n.depth - 1 }
  else n

def read (n : Nesting) (s : List Char) : Nesting := s.foldl step n

def raise (n : Nesting) (k : Int) : Nesting := { n with depth := n.depth + k }

/-- Somewhere before its end, the text has closed all that was open. -/
def Falls (n : Nesting) (s : List Char) : Prop :=
  ∃ front, front <+: s ∧ front ≠ s ∧ (n.read front).depth ≤ 0

variable {n : Nesting} {c : Char} {s t : List Char} {k : Int}

@[simp] theorem read_nil : n.read [] = n := rfl

@[simp] theorem read_cons : n.read (c :: s) = (n.step c).read s := rfl

@[simp] theorem read_append : n.read (s ++ t) = (n.read s).read t := List.foldl_append

@[simp] theorem depth_raise : (n.raise k).depth = n.depth + k := rfl

theorem step_raise : (n.raise k).step c = (n.step c).raise k := by
  unfold step raise
  split_ifs <;> simp only [mk.injEq, and_true] <;> omega

theorem read_raise : (n.raise k).read s = (n.read s).raise k := by
  induction s generalizing n with
  | nil => rfl
  | cons c s ih => rw [read_cons, read_cons, step_raise, ih]

theorem step_of_isBlank (h : isBlank c = true) : n.step c = n := by
  have hne : ∀ d, isBlank d = false → c ≠ d := by
    rintro d hd rfl
    exact Bool.noConfusion (h.symm.trans hd)
  simp only [step, hne '\'' rfl, hne '(' rfl, hne ')' rfl, if_false, ite_self]

theorem read_of_isBlank (h : ∀ c ∈ s, isBlank c = true) : n.read s = n := by
  induction s with
  | nil => rfl
  | cons c s ih =>
    obtain ⟨hc, hs⟩ := List.forall_mem_cons.mp h
    rw [read_cons, step_of_isBlank hc, ih hs]

theorem falls_of_nonpos (h : n.depth ≤ 0) : n.Falls s ↔ s ≠ [] := by
  constructor
  · rintro ⟨front, hp, hne, -⟩ rfl
    exact hne (List.prefix_nil.mp hp)
  · intro hs
    exact ⟨[], List.nil_prefix, hs.symm, h⟩

theorem falls_cons_iff (h : 0 < n.depth) : n.Falls (c :: s) ↔ (n.step c).Falls s := by
  constructor
  · rintro ⟨_ | ⟨d, front⟩, hp, hne, hd⟩
    · exact absurd hd (by simpa using h)
    · obtain ⟨rfl, hps⟩ := List.cons_prefix_cons.mp hp
      exact ⟨front, hps, fun he => hne (he ▸ rfl), hd⟩
  · rintro ⟨front, hp, hne, hd⟩
    exact ⟨c :: front, List.cons_prefix_cons.mpr ⟨rfl, hp⟩, fun he => hne (List.cons.inj he).2, hd⟩

end Nesting

/-- What a text has left open at its end. -/
def nesting (s : List Char) : Nesting := Nesting.read {} s

/-- Nothing is closed that the text has not opened before. -/
def Upright (s : List Char) : Prop := ∀ front, front <+: s → 0 ≤ (nesting front).depth

/-- Nothing is closed that is not open, and nothing is open at the end. -/
structure Balanced (s : List Char) : Prop where
  upright : Upright s
  settled : nesting s = {}

instance (s : List Char) : Decidable (Upright s) :=
  decidable_of_iff (∀ front ∈ s.inits, 0 ≤ (nesting front).depth) (by simp [Upright])

instance (s : List Char) : Decidable (Balanced s) :=
  decidable_of_iff (Upright s ∧ nesting s = {}) ⟨fun h => ⟨h.1, h.2⟩, fun h => ⟨h.1, h.2⟩⟩

section Balanced

variable {s t mid front back : List Char}

theorem upright_append_iff :
    Upright (s ++ t) ↔ Upright s ∧ ∀ front, front <+: t → 0 ≤ ((nesting s).read front).depth := by
  have hread : ∀ front, nesting (s ++ front) = (nesting s).read front := fun _ =>
    Nesting.read_append
  constructor
  · intro h
    refine ⟨fun front hp => h front (hp.trans (List.prefix_append s t)), fun front hp => ?_⟩
    rw [← hread]
    exact h _ ((List.prefix_append_right_inj s).mpr hp)
  · rintro ⟨hs, ht⟩ front hp
    rcases List.prefix_or_prefix_of_prefix hp (List.prefix_append s t) with hps | ⟨front, rfl⟩
    · exact hs front hps
    · rw [hread]
      exact ht front ((List.prefix_append_right_inj s).mp hp)

theorem upright_of_isBlank (h : ∀ c ∈ s, isBlank c = true) : Upright s := by
  intro front hp
  have hn : nesting front = {} := Nesting.read_of_isBlank fun c hc => h c (hp.subset hc)
  exact Int.le_of_eq (congrArg Nesting.depth hn).symm

theorem balanced_between_blanks (hf : ∀ c ∈ front, isBlank c = true)
    (hb : ∀ c ∈ back, isBlank c = true) : Balanced (front ++ (s ++ back)) ↔ Balanced s := by
  have hfront : nesting front = {} := Nesting.read_of_isBlank hf
  have hback : ∀ t, t <+: back → (nesting s).read t = nesting s := fun t hp =>
    Nesting.read_of_isBlank fun c hc => hb c (hp.subset hc)
  have hnesting : nesting (front ++ (s ++ back)) = nesting s := by
    rw [nesting, Nesting.read_append, Nesting.read_append]
    exact (congrArg (fun n => (n.read s).read back) hfront).trans (hback back List.prefix_rfl)
  have hupright : Upright (front ++ (s ++ back)) ↔ Upright s := by
    rw [upright_append_iff, hfront]
    change Upright front ∧ Upright (s ++ back) ↔ Upright s
    rw [upright_append_iff]
    constructor
    · exact fun h => h.2.1
    · intro h
      refine ⟨upright_of_isBlank hf, h, fun t hp => ?_⟩
      rw [hback t hp]
      exact h s List.prefix_rfl
  constructor
  · exact fun h => ⟨hupright.mp h.upright, hnesting ▸ h.settled⟩
  · exact fun h => ⟨hupright.mpr h.upright, hnesting.trans h.settled⟩

theorem balanced_trim_iff : Balanced (trim s) ↔ Balanced s := by
  obtain ⟨front, back, hf, hb, hs⟩ := exists_blank_trim s
  rw [← balanced_between_blanks hf hb, ← hs]

/-! ## A pair of parentheses -/

theorem read_open (s : List Char) : Nesting.read ⟨1, false⟩ s = (nesting s).raise 1 :=
  Nesting.read_raise (n := {}) (k := 1)

theorem nesting_opening (s : List Char) : nesting ('(' :: s) = (nesting s).raise 1 := read_open s

theorem nesting_pair (mid : List Char) :
    nesting ('(' :: (mid ++ [')'])) = ((nesting mid).raise 1).step ')' := by
  rw [nesting_opening, Nesting.step_raise, nesting, Nesting.read_append]
  rfl

theorem settled_pair_iff : nesting ('(' :: (mid ++ [')'])) = {} ↔ nesting mid = {} := by
  rw [nesting_pair]
  obtain ⟨depth, quoted⟩ := nesting mid
  cases quoted <;> simp [Nesting.step, Nesting.raise]

theorem Balanced.pair (h : Balanced mid) : Balanced ('(' :: (mid ++ [')'])) where
  upright front hp := by
    rcases List.prefix_cons_iff.mp hp with rfl | ⟨inside, rfl, hi⟩
    · exact Int.le_refl 0
    · rcases List.prefix_concat_iff.mp hi with rfl | hm
      · exact Int.le_of_eq (congrArg Nesting.depth (settled_pair_iff.mpr h.settled)).symm
      · rw [nesting_opening, Nesting.depth_raise]
        have hd := h.upright inside hm
        omega
  settled := settled_pair_iff.mpr h.settled

end Balanced

/-! ## Expressions that lose a pair -/

section Strip

variable {s mid : List Char} {quoted : Bool} {expression : String}

/-- While a parenthesis is open, the depth that never falls below zero is the depth itself, so what
is looked for is the first point at which all is closed. -/
theorem closesEarly_iff {depth : Nat} (h : 0 < depth) :
    closesEarly depth quoted s = true ↔ Nesting.Falls ⟨depth, quoted⟩ s := by
  induction s generalizing depth quoted with
  | nil => simp [closesEarly, Nesting.Falls]
  | cons c s ih =>
    rw [Nesting.falls_cons_iff (by simpa using h), closesEarly, Nesting.step]
    by_cases hquote : c = '\''
    · rw [if_pos hquote, if_pos hquote]
      exact ih h
    rw [if_neg hquote, if_neg hquote]
    cases quoted with
    | true => simpa using ih h
    | false =>
      by_cases hopen : c = '('
      · simpa [hopen] using @ih false _ (Nat.succ_pos depth)
      by_cases hclose : c = ')'
      · obtain ⟨rest, rfl⟩ : ∃ rest, depth = rest + 1 := ⟨depth - 1, by omega⟩
        simp only [hclose]
        cases rest with
        | zero =>
          rw [Nesting.falls_of_nonpos (by simp)]
          by_cases hs : s = [] <;> simp [hs, closesEarly]
        | succ rest => simpa using @ih false _ (Nat.succ_pos rest)
      · simpa [hopen, hclose] using @ih false _ h

theorem falls_closing_iff : Nesting.Falls ⟨1, false⟩ (mid ++ [')']) ↔ ¬ Upright mid := by
  have hread : ∀ front, (Nesting.read ⟨1, false⟩ front).depth = (nesting front).depth + 1 :=
    fun front => congrArg Nesting.depth (read_open front)
  constructor
  · rintro ⟨front, hp, hne, hd⟩ hu
    rcases List.prefix_concat_iff.mp hp with rfl | hm
    · exact hne rfl
    · have := hu front hm
      have := hread front
      omega
  · intro h
    obtain ⟨front, hf⟩ := not_forall.mp h
    obtain ⟨hp, hd⟩ := Classical.not_imp.mp hf
    refine ⟨front, hp.trans (List.prefix_append _ _), ?_, ?_⟩
    · rintro rfl
      exact absurd hp.length_le (by simp)
    · rw [hread]
      omega

theorem isWrapped_pair_iff : isWrapped ('(' :: (mid ++ [')'])) = true ↔ Upright mid := by
  have hearly : closesEarly 0 false ('(' :: (mid ++ [')'])) = closesEarly 1 false (mid ++ [')']) :=
    rfl
  have hends : isWrapped ('(' :: (mid ++ [')'])) = !closesEarly 1 false (mid ++ [')']) := by
    rw [isWrapped, hearly, ← List.cons_append, List.getLast?_append]
    rfl
  rw [hends, Bool.not_eq_true', ← Bool.not_eq_true, closesEarly_iff Nat.one_pos]
  exact (not_congr falls_closing_iff).trans not_not

theorem isWrapped_iff :
    isWrapped s = true ↔ ∃ mid, s = '(' :: (mid ++ [')']) ∧ Upright mid := by
  constructor
  · intro h
    obtain ⟨mid, rfl⟩ : ∃ mid, s = '(' :: (mid ++ [')']) := by
      simp only [isWrapped, Bool.and_eq_true, beq_iff_eq] at h
      obtain ⟨⟨hhead, hlast⟩, -⟩ := h
      obtain ⟨_ | ⟨a, mid⟩, rfl⟩ := List.getLast?_eq_some_iff.mp hlast
      · simp at hhead
      · obtain rfl : a = '(' := by simpa using hhead
        exact ⟨mid, rfl⟩
    exact ⟨mid, rfl, isWrapped_pair_iff.mp h⟩
  · rintro ⟨mid, rfl, hu⟩
    exact isWrapped_pair_iff.mpr hu

theorem stripOuterParens_of_upright (hs : trim expression.toList = '(' :: (mid ++ [')']))
    (hu : Upright mid) : stripOuterParens expression = String.ofList (trim mid) := by
  have hinner : inner ('(' :: (mid ++ [')'])) = mid := by simp [inner]
  rw [stripOuterParens, hs, if_pos (isWrapped_pair_iff.mpr hu), hinner]

theorem stripOuterParens_of_not_upright
    (h : ∀ mid, trim expression.toList = '(' :: (mid ++ [')']) → ¬ Upright mid) :
    stripOuterParens expression = String.ofList (trim expression.toList) := by
  have hw : ¬ isWrapped (trim expression.toList) = true := by
    intro hw
    obtain ⟨mid, hs, hu⟩ := isWrapped_iff.mp hw
    exact h mid hs hu
  rw [stripOuterParens, if_neg hw]

end Strip

/-! ## Balanced expressions -/

/-- The text begins with a parenthesis that its last character matches: what is between the two is
balanced. -/
structure Encloses (s mid : List Char) : Prop where
  eq_pair : s = '(' :: (mid ++ [')'])
  balanced : Balanced mid

/-- The text begins with a parenthesis, ends with another one, and has a parenthesis or a quote
between them that is never closed. -/
def LeavesOpen (s : List Char) : Prop :=
  ∃ mid, s = '(' :: (mid ++ [')']) ∧ Upright mid ∧ nesting mid ≠ {}

section Expressions

variable {expression : String} {s mid : List Char}

theorem Encloses.balanced_outer (h : Encloses s mid) : Balanced s := h.eq_pair ▸ h.balanced.pair

theorem encloses_of_balanced (h : Balanced s) (hs : s = '(' :: (mid ++ [')'])) (hu : Upright mid) :
    Encloses s mid := ⟨hs, hu, settled_pair_iff.mp (hs ▸ h.settled)⟩

theorem balanced_stripOuterParens (h : Balanced expression.toList) :
    Balanced (stripOuterParens expression).toList := by
  have ht : Balanced (trim expression.toList) := balanced_trim_iff.mpr h
  by_cases hw : ∃ mid, trim expression.toList = '(' :: (mid ++ [')']) ∧ Upright mid
  · obtain ⟨mid, hs, hu⟩ := hw
    rw [stripOuterParens_of_upright hs hu, String.toList_ofList, balanced_trim_iff]
    exact (encloses_of_balanced ht hs hu).balanced
  · rw [stripOuterParens_of_not_upright fun mid hs hu => hw ⟨mid, hs, hu⟩, String.toList_ofList]
    exact ht

theorem stripOuterParens_pair (h : Upright expression.toList) :
    stripOuterParens ("(" ++ expression ++ ")") = String.ofList (trim expression.toList) := by
  have hs : ("(" ++ expression ++ ")").toList = '(' :: (expression.toList ++ [')']) := by simp
  refine stripOuterParens_of_upright ?_ h
  rw [hs]
  exact trim_of_ends rfl rfl

/-- A balanced expression loses the pair that encloses it, or nothing but blanks if no pair does.
What is left is balanced, and a pair put around it would be taken off again. -/
theorem stripOuterParens_of_balanced (expression : String) (h : Balanced expression.toList) :
    (∀ mid, Encloses (trim expression.toList) mid →
      stripOuterParens expression = String.ofList (trim mid)) ∧
    ((∀ mid, ¬ Encloses (trim expression.toList) mid) →
      stripOuterParens expression = String.ofList (trim expression.toList)) ∧
    Balanced (stripOuterParens expression).toList ∧
    stripOuterParens ("(" ++ expression ++ ")") = String.ofList (trim expression.toList) := by
  refine ⟨fun mid he => stripOuterParens_of_upright he.eq_pair he.balanced.upright, fun hn => ?_,
    balanced_stripOuterParens h, stripOuterParens_pair h.upright⟩
  have ht : Balanced (trim expression.toList) := balanced_trim_iff.mpr h
  exact stripOuterParens_of_not_upright fun mid hs hu => hn mid (encloses_of_balanced ht hs hu)

theorem stripOuterParens_quotedPair :
    Balanced " (N')''(' + (b)) ".toList ∧
      stripOuterParens " (N')''(' + (b)) " = "N')''(' + (b)" := by
  have h : Balanced " (N')''(' + (b)) ".toList := by decide +kernel
  have he : Encloses (trim " (N')''(' + (b)) ".toList) "N')''(' + (b)".toList :=
    ⟨by decide +kernel, by decide +kernel⟩
  have hm : String.ofList (trim "N')''(' + (b)".toList) = "N')''(' + (b)" := by decide +kernel
  exact ⟨h, ((stripOuterParens_of_balanced _ h).1 _ he).trans hm⟩

/-- An expression that is not balanced is left alone exactly if it does not stay open between its
first and its last parenthesis. If it does, these two are taken off although they do not match. -/
theorem stripOuterParens_of_not_balanced (expression : String)
    (h : ¬ Balanced (trim expression.toList)) :
    (stripOuterParens expression = String.ofList (trim expression.toList) ↔
      ¬ LeavesOpen (trim expression.toList)) ∧
    ∀ mid, trim expression.toList = '(' :: (mid ++ [')']) → Upright mid →
      nesting mid ≠ {} ∧ stripOuterParens expression = String.ofList (trim mid) := by
  have hopen : ∀ mid, trim expression.toList = '(' :: (mid ++ [')']) → Upright mid →
      nesting mid ≠ {} := fun mid hs hu hn => h (Encloses.balanced_outer ⟨hs, hu, hn⟩)
  refine ⟨⟨?_, ?_⟩, fun mid hs hu => ⟨hopen mid hs hu, stripOuterParens_of_upright hs hu⟩⟩
  · rintro he ⟨mid, hs, hu, -⟩
    -- The result is that of the inner text, which is too short to be the whole.
    rw [stripOuterParens_of_upright hs hu, String.ofList_inj] at he
    have hl := length_trim_le mid
    rw [he, hs, List.length_cons, List.length_append] at hl
    omega
  · intro hl
    exact stripOuterParens_of_not_upright fun mid hs hu => hl ⟨mid, hs, hu, hopen mid hs hu⟩

theorem stripOuterParens_openQuote :
    ¬ Balanced (trim "(1) + ('a)".toList) ∧ stripOuterParens "(1) + ('a)" = "(1) + ('a)" := by
  have h : ¬ Balanced (trim "(1) + ('a)".toList) := by decide +kernel
  have ht : trim "(1) + ('a)".toList = '(' :: ("1) + ('a".toList ++ [')']) := by decide +kernel
  have hu : ¬ Upright "1) + ('a".toList := by decide +kernel
  refine ⟨h, ((stripOuterParens_of_not_balanced _ h).1.mpr ?_).trans (by decide +kernel)⟩
  rintro ⟨mid, hs, hm, -⟩
  rw [ht] at hs
  exact hu (List.append_cancel_right (List.cons.inj hs).2 ▸ hm)

/-- Two expressions without a pair around them, of which one is taken off. -/
theorem stripOuterParens_unclosed :
    (¬ Balanced (trim "((0)".toList) ∧ (∀ mid, ¬ Encloses (trim "((0)".toList) mid) ∧
      stripOuterParens "((0)" ≠ String.ofList (trim "((0)".toList)) ∧
    (¬ Balanced (trim "('a)".toList) ∧ (∀ mid, ¬ Encloses (trim "('a)".toList) mid) ∧
      stripOuterParens "('a)" ≠ String.ofList (trim "('a)".toList)) := by
  have hparens : ¬ Balanced (trim "((0)".toList) := by decide +kernel
  have hquote : ¬ Balanced (trim "('a)".toList) := by decide +kernel
  exact ⟨⟨hparens, fun _ he => hparens he.balanced_outer, by decide +kernel⟩,
    ⟨hquote, fun _ he => hquote he.balanced_outer, by decide +kernel⟩⟩

end Expressions

end EntityMapping.DefaultValue
