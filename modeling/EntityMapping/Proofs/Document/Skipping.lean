import EntityMapping.Proofs.Document.Lexemes
import EntityMapping.Proofs.Json.Grammar

/-! # Values that are passed over

Every value of the grammar is passed over, however deep it is nested and however large its numbers
are. An open bracket is closed where its items end, and the values left to pass over are counted
against the characters of the text.
-/

namespace EntityMapping.Document

open Json (Blanks blanks_nil Begins begins_of_isNumeric Starts WrittenItems Digits IsHexDigit
  WholeText FractionText ExponentText UnsignedText StringText MemberText ValueText)

variable {before rest text : List Char}

/-! ## Strings and numbers -/

theorem isSome_hexDigit? {c : Char} (h : IsHexDigit c) : (hexDigit? c).isSome := by
  unfold hexDigit?
  split
  case isTrue => rfl
  case isFalse hd =>
    split
    case isTrue => rfl
    case isFalse hl =>
      split
      case isTrue => rfl
      case isFalse hu =>
        simp only [Bool.and_eq_true, decide_eq_true_eq] at hl hu
        rcases h with h | h | h <;> contradiction

theorem isSome_hexValue? {a b c d : Char} (h : ∀ x ∈ [a, b, c, d], IsHexDigit x) :
    (hexValue? a b c d).isSome := by
  simp only [List.forall_mem_cons] at h
  obtain ⟨ha, hb, hc, hd, -⟩ := h
  obtain ⟨_, ha⟩ := Option.isSome_iff_exists.mp (isSome_hexDigit? ha)
  obtain ⟨_, hb⟩ := Option.isSome_iff_exists.mp (isSome_hexDigit? hb)
  obtain ⟨_, hc⟩ := Option.isSome_iff_exists.mp (isSome_hexDigit? hc)
  obtain ⟨_, hd⟩ := Option.isSome_iff_exists.mp (isSome_hexDigit? hd)
  simp [hexValue?, ha, hb, hc, hd]

theorem afterString_append (h : StringText text) (rest : List Char) :
    afterString (text ++ rest) = .ok rest := by
  induction h with
  | closing => rfl
  | char hc hq hs _ ih =>
    rw [List.cons_append, afterString, if_neg (Nat.not_lt.mpr hc), ih] <;> simp [hq, hs]
  | letter hm _ ih =>
    simp only [List.mem_cons, List.not_mem_nil, or_false] at hm
    rcases hm with rfl | rfl | rfl | rfl | rfl | rfl | rfl | rfl <;> exact ih
  | unit hm _ ih =>
    simp only [List.cons_append, afterString, isSome_hexValue? hm, if_true]
    exact ih

theorem skipString_run (h : StringText text) (rest : List Char) :
    skipString.run (text ++ rest) = pure ((), rest) := by
  simp only [skipString, StateT.run_bind, StateT.run_get, pure_bind, afterString_append h]
  rfl

theorem skipDigits_run (h : Digits text) (he : NoDigit rest) :
    skipDigits.run (text ++ rest) = pure ((), rest) := by
  simp [skipDigits, digits_run h.2 he, h.1]

theorem skipExponent_run (h : ExponentText text) (he : Ends rest) :
    skipExponent.run (text ++ rest) = pure ((), rest) := by
  cases h with
  | none =>
    cases rest with
    | nil => rfl
    | cons c rest =>
      obtain ⟨-, -, hl, hu⟩ := ends_cons_iff.mp he
      simp [skipExponent, hl, hu]
  | @digits mark sign ds hm hs hd =>
    have hr := skipDigits_run hd he.noDigit
    obtain ⟨c, ds, rfl⟩ := List.exists_cons_of_ne_nil hd.1
    have hc : c ≠ '+' ∧ c ≠ '-' := by
      have hdigit := hd.2 c (.head _)
      constructor <;> rintro rfl <;> cases hdigit
    simp only [List.mem_cons, List.not_mem_nil, or_false] at hm hs
    rcases hm with rfl | rfl <;> rcases hs with rfl | rfl | rfl <;>
      simp only [List.cons_append, List.nil_append] at hr ⊢ <;> simp [skipExponent, hc, hr]

theorem skipFraction_run (h : FractionText text) (hd : NoDigit rest) (hp : rest.head? ≠ some '.') :
    skipFraction.run (text ++ rest) = pure ((), rest) := by
  cases h with
  | none =>
    cases rest with
    | nil => rfl
    | cons c rest =>
      have hc : c ≠ '.' := fun h => hp (congrArg some h)
      simp [skipFraction, hc]
  | digits h => simpa [skipFraction] using skipDigits_run h hd

theorem noDigit_exponent (h : ExponentText text) (he : Ends rest) :
    NoDigit (text ++ rest) ∧ (text ++ rest).head? ≠ some '.' := by
  cases h with
  | none =>
    refine ⟨he.noDigit, fun hp => ?_⟩
    exact (he '.' hp).2.1 rfl
  | digits hm _ _ =>
    simp only [List.mem_cons, List.not_mem_nil, or_false] at hm
    rcases hm with rfl | rfl <;> simp [NoDigit]

theorem noDigit_fraction (h : FractionText text) (he : NoDigit rest) : NoDigit (text ++ rest) := by
  cases h with
  | none => exact he
  | digits _ => simp [NoDigit]

theorem skipNumber_whole (h : WholeText text) (he : NoDigit rest) :
    skipNumber.run (text ++ rest) = (do skipFraction; skipExponent : Reading Unit).run rest := by
  cases h with
  | zero =>
    have hz : rest.head?.any Char.isDigit = false := by
      cases rest with
      | nil => rfl
      | cons c rest => exact he c rfl
    simp [skipNumber, hz]
  | @positive c ds hc hs =>
    have hr := skipDigits_run hs he
    simp only [List.cons_append] at hr ⊢
    simp [skipNumber, hc, hr]

theorem skipNumber_run (h : UnsignedText text) (he : Ends rest) :
    skipNumber.run (text ++ rest) = pure ((), rest) := by
  cases h with
  | mk hw hf hx =>
    obtain ⟨hd, hp⟩ := noDigit_exponent hx he
    rw [List.append_assoc, List.append_assoc, skipNumber_whole hw (noDigit_fraction hf hd),
      StateT.run_bind, skipFraction_run hf hd hp, pure_bind, skipExponent_run hx he]

/-! ## Values within brackets -/

def resume (afterValue : Bool) (bound : Nat) (brackets : List Bracket) : Reading Unit := do
  let remaining ← closeBrackets afterValue brackets
  if !remaining.isEmpty then
    skipWithin bound remaining

def skipItem (bound : Nat) (bracket : Bracket) (outer : List Bracket) : Reading Unit := do
  if bracket = .object then skipName
  skipWithin bound (bracket :: outer)

theorem skipWithin_run {start : Option Bracket} {bound : Nat} {brackets : List Bracket}
    (h : skipStart.run text = pure (start, rest)) :
    (skipWithin (bound + 1) brackets).run text =
      match start with
      | some bracket => (resume false bound (bracket :: brackets)).run rest
      | none => (resume true bound brackets).run rest := by
  cases start <;> simp [skipWithin, resume, h]

variable {bracket : Bracket} {outer : List Bracket} {bound : Nat} {afterValue : Bool}

theorem resume_closing (hb : Blanks before) :
    (resume afterValue bound (bracket :: outer)).run (before ++ bracket.closing :: rest) =
      (resume true bound outer).run rest := by
  have hc : isBlank bracket.closing = false := by cases bracket <;> rfl
  simp [resume, closeBrackets, peek_run hb hc, skip_run]

theorem resume_first {c : Char} (hb : Blanks before) (hc : isBlank c = false)
    (hn : c ≠ bracket.closing) :
    (resume false bound (bracket :: outer)).run (before ++ c :: rest) =
      (skipItem bound bracket outer).run (c :: rest) := by
  cases bracket <;> simp [resume, skipItem, closeBrackets, peek_run hb hc, hn]

theorem resume_comma (hb : Blanks before) :
    (resume true bound (bracket :: outer)).run (before ++ ',' :: rest) =
      (skipItem bound bracket outer).run rest := by
  have hn : ',' ≠ bracket.closing := by cases bracket <;> decide
  cases bracket <;> simp [resume, skipItem, closeBrackets, isBlank, peek_run hb, hn, skip_run]

/-- A value is passed over with its share of the bound. -/
def Skipped (text : List Char) : Prop :=
  ∃ share ≤ text.length, ∀ bound brackets before rest, Blanks before → Ends rest →
    (skipWithin (bound + share) brackets).run (before ++ (text ++ rest)) =
      (resume true bound brackets).run rest

def Passed (bracket : Bracket) (text : List Char) : Prop :=
  ∃ share ≤ text.length, ∀ bound outer before rest, Blanks before → Ends rest →
    (skipItem (bound + share) bracket outer).run (before ++ (text ++ rest)) =
      (resume true bound (bracket :: outer)).run rest

theorem resume_items {α : Type} {Form : α → List Char → Prop} {items : List α} {fromStart : Bool}
    (hf : Starts (fun c => isBlank c = false ∧ c ≠ bracket.closing) Form)
    (h : ∀ a t, t.length ≤ text.length → Form a t → Passed bracket t)
    (hw : WrittenItems Form bracket.closing fromStart items text) :
    ∃ share ≤ text.length, ∀ bound outer rest,
      (resume (!fromStart) (bound + share) (bracket :: outer)).run (text ++ rest) =
        (resume true bound outer).run rest := by
  have hends : Ends [bracket.closing] := by cases bracket <;> simp [Bracket.closing]
  induction hw with
  | nil hb =>
    refine ⟨0, Nat.zero_le _, fun bound outer rest => ?_⟩
    rw [List.append_assoc]
    exact resume_closing hb
  | @first a items before t others hb ha hs ih =>
    obtain ⟨own, hown, hpassed⟩ := h a t (by simp; omega) ha
    obtain ⟨later, hlater, hothers⟩ := ih fun a t hl => h a t (by simp; omega)
    refine ⟨later + own, by simp; omega, fun bound outer rest => ?_⟩
    obtain ⟨c, s, rfl, hblank, hclosing⟩ := hf ha
    have hp := hpassed (bound + later) outer [] _ blanks_nil (ends_items hends hs rest)
    simp only [List.append_assoc, List.cons_append, List.nil_append] at hp ⊢
    rw [Bool.not_true, resume_first hb hblank hclosing, ← Nat.add_assoc, hp]
    exact hothers bound outer rest
  | @next a items before after t others hb hafter ha hs ih =>
    obtain ⟨own, hown, hpassed⟩ := h a t (by simp; omega) ha
    obtain ⟨later, hlater, hothers⟩ := ih fun a t hl => h a t (by simp; omega)
    refine ⟨later + own, by simp; omega, fun bound outer rest => ?_⟩
    have hp := hpassed (bound + later) outer _ _ hafter (ends_items hends hs rest)
    simp only [List.append_assoc, List.cons_append] at hp ⊢
    rw [Bool.not_false, resume_comma hb, ← Nat.add_assoc, hp]
    exact hothers bound outer rest

/-! ## Values -/

theorem exists_cons_unsignedText (h : UnsignedText text) :
    ∃ c s, text = c :: s ∧ c.isDigit = true := by
  cases h with
  | mk hw _ _ =>
    cases hw with
    | zero => exact ⟨_, _, rfl, rfl⟩
    | positive _ hs => exact ⟨_, _, rfl, hs.2 _ (.head _)⟩

theorem exists_cons_valueText (h : ValueText text) : ∃ c s, text = c :: s ∧ Begins c := by
  cases h with
  | unsigned h =>
    obtain ⟨c, s, rfl, hc⟩ := exists_cons_unsignedText h
    exact ⟨c, s, rfl, begins_of_isNumeric (.inr hc)⟩
  | _ => exact ⟨_, _, rfl, by simp [Begins, isBlank]⟩

theorem skipped_of_start (hn : text ≠ [])
    (h : ∀ before rest, Blanks before → Ends rest →
      skipStart.run (before ++ (text ++ rest)) = pure (none, rest)) : Skipped text :=
  ⟨1, List.length_pos_iff.mpr hn, fun _ _ _ _ hb he => skipWithin_run (h _ _ hb he)⟩

theorem skipped_of_items {α : Type} {Form : α → List Char → Prop} {items : List α} {c : Char}
    (bracket : Bracket)
    (hc : ∀ before rest, Blanks before →
      skipStart.run (before ++ c :: rest) = pure (some bracket, rest))
    (hf : Starts (fun c => isBlank c = false ∧ c ≠ bracket.closing) Form)
    (h : ∀ a t, t.length ≤ text.length → Form a t → Passed bracket t)
    (hw : WrittenItems Form bracket.closing true items text) : Skipped (c :: text) := by
  obtain ⟨share, hs, hitems⟩ := resume_items hf h hw
  refine ⟨share + 1, Nat.succ_le_succ hs, fun bound brackets before rest hb _ => ?_⟩
  rw [List.cons_append, ← Nat.add_assoc, skipWithin_run (hc before (text ++ rest) hb)]
  exact hitems bound brackets rest

theorem Skipped.passed (h : Skipped text) : Passed .list text := by
  obtain ⟨share, hs, hp⟩ := h
  refine ⟨share, hs, fun bound outer before rest hb he => ?_⟩
  simpa [skipItem] using hp bound (.list :: outer) before rest hb he

theorem skipName_run {name between : List Char} (hb : Blanks before) (h : StringText name)
    (hbetween : Blanks between) :
    skipName.run (before ++ '"' :: (name ++ (between ++ ':' :: rest))) = pure ((), rest) := by
  simp [skipName, isBlank, peek_run hb, skip_run, skipString_run h, colon_run hbetween]

theorem passed_member (h : MemberText Skipped text) : Passed .object text := by
  cases h with
  | mk hn hbetween hafter ht =>
    obtain ⟨share, hs, hp⟩ := ht
    refine ⟨share, by simp; omega, fun bound outer before rest hb he => ?_⟩
    simp [skipItem, skipName_run hb hn hbetween, hp _ _ _ _ hafter he]

theorem skipStart_unsigned (hb : Blanks before) (h : UnsignedText text) (he : Ends rest) :
    skipStart.run (before ++ (text ++ rest)) = pure (none, rest) := by
  have hr := skipNumber_run h he
  obtain ⟨c, s, rfl, hc⟩ := exists_cons_unsignedText h
  have hn : c ≠ 'n' ∧ c ≠ 't' ∧ c ≠ 'f' ∧ c ≠ '"' ∧ c ≠ '-' ∧ c ≠ '[' ∧ c ≠ '\x7b' := by
    refine ⟨?_, ?_, ?_, ?_, ?_, ?_, ?_⟩ <;> rintro rfl <;> cases hc
  rw [List.cons_append] at hr ⊢
  simp [skipStart, peek_run hb (begins_of_isNumeric (.inr hc)).1, hn, hc, hr]

/-- By induction on the length of the text, since items are shorter than what they are items of. -/
theorem skipped_of_valueText (h : ValueText text) : Skipped text := by
  induction hn : text.length using Nat.strongRecOn generalizing text with
  | ind n ih =>
    cases h with
    | null | true | false =>
      refine skipped_of_start (List.cons_ne_nil _ _) fun before rest hb _ => ?_
      simp [skipStart, isBlank, peek_run hb, skip_run, word]
    | unsigned h =>
      obtain ⟨c, s, rfl, -⟩ := exists_cons_unsignedText h
      exact skipped_of_start (List.cons_ne_nil _ _) fun _ _ hb he => skipStart_unsigned hb h he
    | negative h =>
      refine skipped_of_start (List.cons_ne_nil _ _) fun before rest hb he => ?_
      simp [skipStart, isBlank, peek_run hb, skip_run, skipNumber_run h he]
    | string h =>
      refine skipped_of_start (List.cons_ne_nil _ _) fun before rest hb he => ?_
      simp [skipStart, isBlank, peek_run hb, skip_run, skipString_run h]
    | array hs =>
      refine skipped_of_items .list (fun before rest hb => ?_) (fun _ _ ht => ?_)
        (fun _ t hl ht => ?_) hs
      · simp [skipStart, isBlank, peek_run hb, skip_run]
      · obtain ⟨c, s, rfl, hc⟩ := exists_cons_valueText ht
        exact ⟨c, s, rfl, hc.1, hc.2.2⟩
      · rw [List.length_cons] at hn
        exact (ih t.length (by omega) ht rfl).passed
    | object hs =>
      refine skipped_of_items .object (fun before rest hb => ?_) (fun _ _ ht => ?_)
        (fun _ t hl ht => ?_) hs
      · simp [skipStart, isBlank, peek_run hb, skip_run]
      · cases ht with
        | mk _ _ _ _ => exact ⟨_, _, rfl, rfl, by decide⟩
      · cases ht with
        | @mk name between after t hname hb ha hv =>
          simp only [List.length_cons, List.length_append] at hn hl
          exact passed_member (.mk hname hb ha (ih t.length (by omega) hv rfl))

theorem skipValue_run (hb : Blanks before) (h : ValueText text) (he : Ends rest) :
    skipValue.run (before ++ (text ++ rest)) = pure ((), rest) := by
  obtain ⟨share, hs, hp⟩ := skipped_of_valueText h
  have hle : share ≤ (before ++ (text ++ rest)).length + 1 := by
    simp only [List.length_append]
    omega
  obtain ⟨bound, hbound⟩ := Nat.exists_eq_add_of_le' hle
  have hr := hp bound [] before rest hb he
  simp only [skipValue, StateT.run_bind, StateT.run_get, pure_bind, hbound, hr]
  simp [resume, closeBrackets]

end EntityMapping.Document
