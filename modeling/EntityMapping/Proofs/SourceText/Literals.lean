import EntityMapping.Proofs.SourceText.Legible
import Mathlib.Algebra.Ring.Parity
import Mathlib.Data.List.Induction

/-! # Literals read back

A scanner of string literals. Behind the opening quote it resolves simple escapes, takes every
other character as it is, and stops at the first quote that no backslash escapes. A literal reads
back to its text, whatever comes after it; so literals differ where their texts do, and nothing
that a text holds can end its literal or keep it from ending.
-/

namespace EntityMapping.SourceText

def simpleEscape? : Char → Option Char
  | '\\' => some '\\'
  | '"' => some '"'
  | 'n' => some '\n'
  | 'r' => some '\r'
  | 't' => some '\t'
  | '0' => some '\x00'
  | _ => none

/-- The value of what comes before the first unescaped quote, and what comes behind that quote. -/
def scanQuoted : List Char → Option (List Char × List Char)
  | [] => none
  | '"' :: rest => some ([], rest)
  | ['\\'] => none
  | '\\' :: c :: s =>
    (simpleEscape? c).bind fun value => (scanQuoted s).map fun (values, rest) =>
      (value :: values, rest)
  | c :: s => (scanQuoted s).map fun (values, rest) => (c :: values, rest)

/-- The value of the literal that a text begins with, and the text behind it. -/
def scanLiteral (text : String) : Option (String × String) :=
  match text.toList with
  | '"' :: s => (scanQuoted s).map fun (value, rest) => (String.ofList value, String.ofList rest)
  | _ => none

/-- Whether the character after this text is escaped: of the backslashes that it ends in, every
second one is escaped by the one before. -/
def Escapes (front : List Char) : Prop := Odd (front.reverse.takeWhile (· == '\\')).length

/-- A text that neither ends the literal that it stands in nor keeps it from ending: its quotes are
escaped, and the next character is not. -/
structure Sealed (body : List Char) : Prop where
  escapes : ∀ front back, body = front ++ '"' :: back → Escapes front
  not_escapes : ¬ Escapes body

section Sealed

variable {c : Char} {front s body value rest : List Char}

theorem not_escapes_nil : ¬ Escapes [] := Nat.not_odd_zero

theorem escapes_backslash : Escapes ['\\'] := by simp [Escapes]

theorem escapes_concat_iff : Escapes (front ++ [c]) ↔ c = '\\' ∧ ¬ Escapes front := by
  by_cases h : c = '\\'
  · simp [Escapes, h, Nat.odd_add_one]
  · simp [Escapes, h]

theorem escapes_cons_of_ne (h : c ≠ '\\') : Escapes (c :: s) ↔ Escapes s := by
  induction s using List.reverseRecOn with
  | nil => simp [Escapes, h]
  | append_singleton s d ih => rw [← List.cons_append, escapes_concat_iff, escapes_concat_iff, ih]

theorem escapes_pair : Escapes ('\\' :: c :: s) ↔ Escapes s := by
  induction s using List.reverseRecOn with
  | nil =>
    have hp : ¬ Escapes (['\\'] ++ [c]) := fun h => (escapes_concat_iff.mp h).2 escapes_backslash
    exact iff_of_false hp not_escapes_nil
  | append_singleton s d ih =>
    rw [← List.cons_append, ← List.cons_append, escapes_concat_iff, escapes_concat_iff, ih]

theorem sealed_nil : Sealed [] where
  escapes front back h := by simp at h
  not_escapes := not_escapes_nil

theorem Sealed.cons (h : Sealed s) (hb : c ≠ '\\') (hq : c ≠ '"') : Sealed (c :: s) where
  escapes front back he := by
    rcases front with _ | ⟨d, front⟩
    · exact absurd (List.cons.inj he).1 hq
    · obtain ⟨rfl, hs⟩ := List.cons.inj he
      exact (escapes_cons_of_ne hb).mpr (h.escapes front back hs)
  not_escapes := fun he => h.not_escapes ((escapes_cons_of_ne hb).mp he)

theorem Sealed.pair (h : Sealed s) (c : Char) : Sealed ('\\' :: c :: s) where
  escapes front back he := by
    rcases front with _ | ⟨b, _ | ⟨d, front⟩⟩
    · simp at he
    · obtain ⟨rfl, -⟩ := List.cons.inj he
      exact escapes_backslash
    · simp only [List.cons_append, List.cons.injEq] at he
      obtain ⟨rfl, rfl, he⟩ := he
      exact escapes_pair.mpr (h.escapes front back he)
  not_escapes := fun he => h.not_escapes (escapes_pair.mp he)

theorem exists_sealed_of_scanQuoted (h : scanQuoted s = some (value, rest)) :
    ∃ body, Sealed body ∧ s = body ++ '"' :: rest := by
  fun_induction scanQuoted s generalizing value with
  | case1 | case3 => cases h
  | case2 rest' =>
    cases h
    exact ⟨[], sealed_nil, rfl⟩
  | case4 c s ih =>
    obtain ⟨_, -, hs⟩ := Option.bind_eq_some_iff.mp h
    obtain ⟨⟨values, rest⟩, hs, he⟩ := Option.map_eq_some_iff.mp hs
    cases he
    obtain ⟨body, hb, rfl⟩ := ih hs
    exact ⟨'\\' :: c :: body, hb.pair c, rfl⟩
  | case5 c s hq hend hpair ih =>
    -- A backslash, last or before a character, has its own cases above.
    have hc : c ≠ '\\' := by
      rintro rfl
      cases s with
      | nil => exact hend rfl rfl
      | cons d s => exact hpair d s rfl rfl
    obtain ⟨⟨values, rest⟩, hs, he⟩ := Option.map_eq_some_iff.mp h
    cases he
    obtain ⟨body, hb, rfl⟩ := ih hs
    exact ⟨c :: body, hb.cons hc hq, rfl⟩

end Sealed

theorem scanQuoted_escapeChar (c : Char) (s : List Char) :
    scanQuoted (escapeChar c ++ s) =
      (scanQuoted s).map fun (values, rest) => (c :: values, rest) := by
  unfold escapeChar
  split
  case h_7 hbackslash hquote hfeed hreturn htab hnul =>
    rw [List.singleton_append, scanQuoted]
    · exact hquote
    · exact fun hb _ => hbackslash hb
    · exact fun _ _ hb _ => hbackslash hb
  all_goals rfl

theorem scanQuoted_escaped (s rest : List Char) :
    scanQuoted (s.flatMap escapeChar ++ '"' :: rest) = some (s, rest) := by
  induction s with
  | nil => rfl
  | cons c s ih => rw [List.flatMap_cons, List.append_assoc, scanQuoted_escapeChar, ih]; rfl

theorem scanLiteral_append (s rest : String) :
    scanLiteral (literal s ++ rest) = some (s, rest) := by
  have hl : (literal s ++ rest).toList =
      '"' :: (s.toList.flatMap escapeChar ++ '"' :: rest.toList) := by
    simp [toList_literal]
  rw [scanLiteral, hl]
  simp only [scanQuoted_escaped, Option.map_some, String.ofList_toList]

/-- Read with any text behind it, a literal gives its text and leaves the other, so that different
texts have different literals. What it has between its quotes is sealed. -/
theorem scanLiteral_literal :
    (∀ s rest : String, scanLiteral (literal s ++ rest) = some (s, rest)) ∧
    Function.Injective literal ∧
    ∀ s : String, ∃ body, (literal s).toList = '"' :: (body ++ ['"']) ∧ Sealed body := by
  refine ⟨scanLiteral_append, ?_, fun s => ?_⟩
  · intro s t h
    have hs := scanLiteral_append s ""
    rw [h, scanLiteral_append] at hs
    exact (Prod.mk.inj (Option.some.inj hs)).1.symm
  · obtain ⟨body, hb, he⟩ := exists_sealed_of_scanQuoted (scanQuoted_escaped s.toList [])
    exact ⟨body, by rw [toList_literal, he], hb⟩

/-- A text that tries to end its literal and to have code read behind it. -/
example : scanLiteral "\"\\\\\\\"); Drop(\"" = some ("\\\"); Drop(", "") := by decide

end EntityMapping.SourceText
