import EntityMapping.Proofs.Document.Values

/-! # Values of any type that are read back

A reading that takes whatever value comes next. It gives back every value from each of its written
forms, so that no text is the form of two values.
-/

namespace EntityMapping.Document

open Decimal (ofDigitChars_repr isDigit_of_mem_repr intRepr_of_neg intRepr_of_nonneg
  natRepr_append_ne_minus exists_intRepr_eq_cons IsNumeric)
open Json (Blanks blanks_nil Begins begins_of_isNumeric Starts starts_written Written
  WrittenMember WrittenItems WrittenArray toList_quote starts_writtenMember)

/-- A natural number without leading zeros. -/
def natural : Reading Nat := do
  let ds ← digits
  let n := Nat.ofDigitChars 10 ds 0
  if n.repr.toList = ds then return n else fail .invalidNumber

def integer : Reading Int := do
  match ← get with
  | '-' :: rest => set rest; return -((← natural : Nat) : Int)
  | _ => return ((← natural : Nat) : Int)

def entries (read : Reading Json) : Nat → Bool → Reading (List (String × Json))
  | 0, _ => fail (.ended .object)
  | bound + 1, first => do
    if ← nextMember first then
      let name ← readString
      colon
      let v ← read
      return (name, v) :: (← entries read bound false)
    else return []

/-- A value of any type that is not nested more deeply than the bound. -/
def readWithin : Nat → Reading Json
  | 0 => fail (.ended .value)
  | bound + 1 => do
    match ← peek with
    | some 'n' => skip; word "ull".toList; return .null
    | some 't' => skip; word "rue".toList; return .bool true
    | some 'f' => skip; word "alse".toList; return .bool false
    | some '"' => return .string (← readString)
    | some '[' => return .array (← readList (readWithin bound))
    | some '\x7b' =>
      skip
      let members ← entries (readWithin bound) ((← get).length + 1) true
      skip
      return .object members
    | _ => return .int (← integer)

def readValue : Reading Json := do
  readWithin ((← get).length + 1)

variable {v : Json} {before rest text : List Char} {read : Reading Json} {fromStart : Bool}

theorem natural_run (n : Nat) (he : Ends rest) :
    natural.run (n.repr.toList ++ rest) = pure (n, rest) := by
  have hd := digits_run (fun c => isDigit_of_mem_repr (n := n) (c := c)) he.noDigit
  simp only [natural, StateT.run_bind, hd, pure_bind, ofDigitChars_repr, if_true, StateT.run_pure]

theorem integer_minus :
    integer.run ('-' :: rest) = (fun p => (-(p.1 : Int), p.2)) <$> natural.run rest := by
  simp [integer]

theorem integer_of_ne (h : ∀ rest, text ≠ '-' :: rest) :
    integer.run text = (fun p => ((p.1 : Int), p.2)) <$> natural.run text := by
  simp [integer]

theorem integer_run (i : Int) (he : Ends rest) :
    integer.run (i.repr.toList ++ rest) = pure (i, rest) := by
  rcases Int.lt_or_le i 0 with hi | hi
  · have hn : -((-i).toNat : Int) = i := by omega
    rw [intRepr_of_neg hi, List.cons_append, integer_minus, natural_run _ he, map_pure, hn]
  · rw [intRepr_of_nonneg hi, integer_of_ne fun _ => natRepr_append_ne_minus rest,
      natural_run _ he, map_pure, Int.toNat_of_nonneg hi]

/-- Short forms of values, which a reading with that bound is made for. -/
def WrittenWithin (bound : Nat) (v : Json) (text : List Char) : Prop :=
  Written v text ∧ text.length < bound

theorem entries_run {Form : Json → List Char → Prop} {members : List (String × Json)} {bound : Nat}
    (h : ∀ v, Yields read (Form v) [] v)
    (hw : WrittenItems (WrittenMember Form) '\x7d' fromStart members text)
    (hl : members.length < bound) :
    (entries read bound fromStart).run (text ++ rest) = pure (members, '\x7d' :: rest) := by
  induction members generalizing fromStart text bound with
  | nil =>
    obtain ⟨n, rfl⟩ : ∃ n, bound = n + 1 := ⟨bound - 1, by omega⟩
    simp [entries, nextMember_nil hw]
  | cons m members ih =>
    obtain ⟨n, rfl⟩ : ∃ n, bound = n + 1 := ⟨bound - 1, by omega⟩
    obtain ⟨form, others, ⟨hb, ha, hv⟩, hothers, hnext⟩ := nextMember_cons starts_writtenMember hw
    have hvalue := (h _ ha hv (ends_items (by simp) hothers rest)).eq_ok
    have hi := ih hothers (Nat.lt_of_succ_lt_succ hl)
    simp [entries, hnext, readString_start, colon_run hb, hvalue, hi]

section Brackets

variable {n : Nat} {inner : List Char}

theorem readWithin_array {elements : List Json}
    (h : ∀ v, Yields (readWithin n) (WrittenWithin n v) [] v) (hb : Blanks before)
    (hw : WrittenItems Written ']' true elements inner) (hl : inner.length < n) (he : Ends rest) :
    (readWithin (n + 1)).run (before ++ ('[' :: (inner ++ rest))) =
      pure (.array elements, rest) := by
  have hf : Starts Begins (WrittenWithin n) := fun _ _ hv => starts_written hv.1
  have hi : WrittenItems (WrittenWithin n) ']' true elements inner := by
    simpa using hw.map (f := id) fun _ _ _ hs hv => ⟨hv, Nat.lt_of_le_of_lt hs hl⟩
  have hy : Yields (readList (readWithin n)) (WrittenArray (WrittenWithin n) elements) []
      elements := yields_wholeList hf (List.forall₂_same.mpr fun v _ => h v)
  have hr : (readList (readWithin n)).run ('[' :: (inner ++ rest)) = pure (elements, rest) :=
    (hy blanks_nil ⟨hi⟩ he).eq_ok
  simp [readWithin, isBlank, peek_run hb, hr]

theorem readWithin_object {members : List (String × Json)}
    (h : ∀ v, Yields (readWithin n) (WrittenWithin n v) [] v) (hb : Blanks before)
    (hw : WrittenItems (WrittenMember Written) '\x7d' true members inner) (hl : inner.length < n) :
    (readWithin (n + 1)).run (before ++ ('\x7b' :: (inner ++ rest))) =
      pure (.object members, rest) := by
  have hi : WrittenItems (WrittenMember (WrittenWithin n)) '\x7d' true members inner := by
    have hm : ∀ m ∈ members, ∀ t, t.length ≤ inner.length → WrittenMember Written m t →
        WrittenMember (WrittenWithin n) m t := by
      rintro _ - _ hs ⟨ha, hb, hv⟩
      refine .mk ha hb ⟨hv, ?_⟩
      simp only [List.length_append, List.length_cons] at hs
      omega
    simpa using hw.map (f := id) hm
  have hlength := hi.length_le starts_writtenMember
  have hr : (entries (readWithin n) (inner.length + rest.length + 1) true).run (inner ++ rest) =
      pure (members, '\x7d' :: rest) := entries_run h hi (by omega)
  simp [readWithin, isBlank, peek_run hb, skip_run, hr]

end Brackets

theorem readWithin_int {n : Nat} (i : Int) (hb : Blanks before) (he : Ends rest) :
    (readWithin (n + 1)).run (before ++ (i.repr.toList ++ rest)) = pure (.int i, rest) := by
  obtain ⟨c, s, hs, hc⟩ := exists_intRepr_eq_cons i
  have hi := integer_run i he
  rw [hs, List.cons_append] at hi ⊢
  have hn : c ≠ 'n' ∧ c ≠ 't' ∧ c ≠ 'f' ∧ c ≠ '"' ∧ c ≠ '[' ∧ c ≠ '\x7b' := by
    refine ⟨?_, ?_, ?_, ?_, ?_, ?_⟩ <;> rintro rfl <;> simp [IsNumeric] at hc
  simp [readWithin, peek_run hb (begins_of_isNumeric hc).1, hn, hi]

theorem readWithin_run {bound : Nat} (hb : Blanks before) (hw : WrittenWithin bound v text)
    (he : Ends rest) : (readWithin bound).run (before ++ (text ++ rest)) = pure (v, rest) := by
  induction bound generalizing v before text rest with
  | zero => exact absurd hw.2 (Nat.not_lt_zero _)
  | succ n ih =>
    have hy : ∀ v, Yields (readWithin n) (WrittenWithin n v) [] v := by
      intro v before text rest hb hw he
      rw [ih hb hw he]
      exact .whole rfl
    obtain ⟨hw, hl⟩ := hw
    cases hw with
    | null | true | false => simp [readWithin, isBlank, peek_run hb, skip_run, word]
    | int => exact readWithin_int _ hb he
    | string => simp [readWithin, toList_quote, isBlank, peek_run hb, readString_quoted]
    | array hs => exact readWithin_array hy hb hs (Nat.lt_of_succ_lt_succ hl) he
    | object hs => exact readWithin_object hy hb hs (Nat.lt_of_succ_lt_succ hl)

theorem reads_value (v : Json) : Reads readValue v v := by
  intro before text rest hb hw he
  have hl : text.length < (before ++ (text ++ rest)).length + 1 := by
    simp only [List.length_append]
    omega
  have hr := readWithin_run hb ⟨hw, hl⟩ he
  simpa [readValue] using hr

end EntityMapping.Document
