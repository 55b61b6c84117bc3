import EntityMapping.Proofs.Document.Lexemes
import Mathlib.Data.List.Forall2
import Mathlib.Data.List.Nodup

/-! # Values that are read back

A reading gives back a value if it takes every written form of its JSON value off the front of a
text, with the blanks in front of it, and leaves what comes after. This holds of the readings of
texts, flags, integers and choices, and carries over to values that may be absent. Lists are read
from items in any forms, and are at fault where one of the items is.
-/

namespace EntityMapping.Document

open Decimal (powerOfTwo IsNumeric exists_intRepr_eq_cons)
open Json (Blanks blanks_nil Begins begins_of_isNumeric Starts starts_written Written WrittenItems
  WrittenArray quote toList_quote
  escapeChar ofOption ofList)

variable {α β : Type} {read : Reading α} {v : Json} {a : α}
variable {before text rest : List Char} {fromStart : Bool}

/-- Every written form of the value is read as `a`. -/
def Reads (read : Reading α) (v : Json) (a : α) : Prop :=
  ∀ ⦃before text rest : List Char⦄, Blanks before → Written v text → Ends rest →
    read.run (before ++ (text ++ rest)) = pure (a, rest)

/-! ## Texts, flags, integers and choices -/

theorem readString_run (hb : Blanks before) (s : String) (rest : List Char) :
    readString.run (before ++ ((quote s).toList ++ rest)) = pure (s, rest) := by
  simp [readString, toList_quote, isBlank, peek_run hb, skip_run, string_run]

theorem readString_start (s : String) (rest : List Char) :
    readString.run ((quote s).toList ++ rest) = pure (s, rest) := by
  simpa only [List.nil_append] using readString_run blanks_nil s rest

theorem readString_quoted (s : String) (rest : List Char) :
    readString.run ('"' :: (s.toList.flatMap escapeChar ++ '"' :: rest)) = pure (s, rest) := by
  simpa [toList_quote] using readString_start s rest

theorem reads_string (s : String) : Reads readString (.string s) s := by
  rintro before _ rest hb ⟨⟩ -
  exact readString_run hb s rest

theorem reads_bool (value : Bool) : Reads readBool (.bool value) value := by
  rintro before _ rest hb ⟨⟩ - <;> simp [readBool, isBlank, peek_run hb, skip_run, word]

theorem reads_int32 (n : Int32) : Reads readInt32 (.int n.toInt) n := by
  rintro before _ rest hb ⟨⟩ he
  obtain ⟨c, text, ht, hc⟩ := exists_intRepr_eq_cons n.toInt
  have hs : signedNumber.run (n.toInt.repr.toList ++ rest) = pure (.integer n.toInt, rest) := by
    have hl := n.le_toInt
    have hu := n.toInt_lt
    have h63 : powerOfTwo 63 = 9223372036854775808 := rfl
    have h64 : powerOfTwo 64 = 18446744073709551616 := rfl
    apply signedNumber_run _ _ he
    · omega
    · omega
  rw [ht, List.cons_append] at hs ⊢
  have hblank := (begins_of_isNumeric hc).1
  have hn : c = '-' ∨ c.isDigit = true := hc
  simp [readInt32, peek_run hb hblank, hn, hs]

theorem find?_name {name : α → String} {as : List α} (hn : (as.map name).Nodup) (ha : a ∈ as) :
    as.find? (name · == name a) = some a := by
  have hs : (as.find? (name · == name a)).isSome := List.find?_isSome.mpr ⟨a, ha, by simp⟩
  obtain ⟨b, hb⟩ := Option.isSome_iff_exists.mp hs
  have hname : name b = name a := by simpa using List.find?_some hb
  rw [hb, List.inj_on_of_nodup_map hn (List.mem_of_find?_eq_some hb) ha hname]

theorem reads_variant {all : List α} {name : α → String} (hn : (all.map name).Nodup)
    (ha : a ∈ all) : Reads (readVariant all name) (.string (name a)) a := by
  rintro before _ rest hb ⟨⟩ -
  have h := find?_name hn ha
  simp [readVariant, toList_quote, isBlank, peek_run hb, readString_quoted, variantNamed, h]

/-! ## Values that may be absent -/

theorem reads_none : Reads (readNullable read) .null none := by
  rintro before _ rest hb ⟨⟩ -
  simp [readNullable, isBlank, peek_run hb, skip_run, word]

theorem reads_some (h : Reads read v a) (hv : v ≠ .null) :
    Reads (readNullable read) v (some a) := by
  intro before text rest hb hw he
  have hr := h blanks_nil hw he
  obtain ⟨c, s, rfl, hc⟩ := hw.exists_cons
  have hn := hw.ne_of_ne_null hv
  simp only [List.nil_append, List.cons_append] at hr ⊢
  simp [readNullable, peek_run hb hc.1, hn, hr]

theorem reads_ofOption {f : α → Json} (h : ∀ a, Reads read (f a) a) (hf : ∀ a, f a ≠ .null)
    (o : Option α) : Reads (readNullable read) (ofOption f o) o := by
  cases o with
  | none => exact reads_none
  | some a => exact reads_some (h a) (hf a)

/-! ## Lists -/

variable {Form : β → List Char → Prop} {lost : List String} {b : β} {items : List β}

/-- What comes of reading a value where the members of these names have been lost from its form:
the value, with what comes after it, if there are none, and otherwise the fault that one is
missing. -/
inductive Outcome (lost : List String) (a : α) (rest : List Char) :
    Except Fault (α × List Char) → Prop
  | whole : lost = [] → Outcome lost a rest (pure (a, rest))
  | missing {name : String} : name ∈ lost → Outcome lost a rest (.error (.missingField name))

/-- Every text of that form, from which the members of these names have been lost, is read as `a`
or faulted for one of them. -/
def Yields (read : Reading α) (Form : List Char → Prop) (lost : List String) (a : α) : Prop :=
  ∀ ⦃before text rest : List Char⦄, Blanks before → Form text → Ends rest →
    Outcome lost a rest (read.run (before ++ (text ++ rest)))

theorem Outcome.eq_ok {r : Except Fault (α × List Char)} (h : Outcome [] a rest r) :
    r = pure (a, rest) := by
  cases h with
  | whole _ => rfl
  | missing hm => cases hm

theorem Outcome.bind {lost' : List String} {rest' : List Char} {r : Except Fault (α × List Char)}
    {next : α × List Char → Except Fault (β × List Char)} (h : Outcome lost a rest r)
    (hn : lost = [] → Outcome lost' b rest' (next (a, rest))) :
    Outcome (lost ++ lost') b rest' (r >>= next) := by
  cases h with
  | whole hl =>
    rw [hl]
    exact hn hl
  | missing hm => exact .missing (List.mem_append_left _ hm)

theorem Outcome.map {r : Except Fault (α × List Char)} (f : α → β) (h : Outcome lost a rest r) :
    Outcome lost (f a) rest (r >>= fun p => pure (f p.1, p.2)) := by
  cases h with
  | whole hl => exact .whole hl
  | missing hm => exact .missing hm

theorem Yields.map {Form : List Char → Prop} (f : α → β) (h : Yields read Form lost a) :
    Yields (f <$> read) Form lost (f a) := by
  intro before text rest hb hw he
  rw [StateT.run_map]
  exact (h hb hw he).map f

theorem Reads.yields (h : Reads read v a) : Yields read (Written v) [] a := by
  intro before text rest hb hw he
  rw [h hb hw he]
  exact .whole rfl

theorem nextElement_nil (hw : WrittenItems Form ']' fromStart [] text) :
    (nextElement fromStart).run (text ++ rest) = pure (false, ']' :: rest) := by
  cases hw with
  | nil hb => simp [nextElement, isBlank, peek_run hb]

theorem nextElement_cons (hf : Starts Begins Form)
    (hw : WrittenItems Form ']' fromStart (b :: items) text) :
    ∃ form others, Form b form ∧ WrittenItems Form ']' false items others ∧ ∀ rest,
      (nextElement fromStart).run (text ++ rest) = pure (true, form ++ (others ++ rest)) := by
  cases hw with
  | first hb hv hs =>
    refine ⟨_, _, hv, hs, fun rest => ?_⟩
    obtain ⟨c, form, rfl, hc⟩ := hf hv
    simp [nextElement, peek_run hb hc.1, hc.2.2]
  | next hb ha hv hs =>
    refine ⟨_, _, hv, hs, fun rest => ?_⟩
    obtain ⟨c, form, rfl, hc⟩ := hf hv
    simp [nextElement, isBlank, peek_run hb, skip_run, peek_run ha hc.1, hc.2.2]

theorem elements_run {losses : β → List String} {as : List α} {bound : Nat}
    (hf : Starts Begins Form)
    (h : List.Forall₂ (fun b a => Yields read (Form b) (losses b) a) items as)
    (hw : WrittenItems Form ']' fromStart items text) (hl : items.length < bound) :
    Outcome (items.flatMap losses) as (']' :: rest)
      ((elements read bound fromStart).run (text ++ rest)) := by
  induction h generalizing fromStart text bound with
  | nil =>
    obtain ⟨n, rfl⟩ : ∃ n, bound = n + 1 := ⟨bound - 1, by omega⟩
    simp only [elements, StateT.run_bind, nextElement_nil hw, pure_bind]
    exact .whole rfl
  | @cons b a items as hb _ ih =>
    obtain ⟨n, rfl⟩ : ∃ n, bound = n + 1 := ⟨bound - 1, by omega⟩
    obtain ⟨form, others, hform, hothers, hnext⟩ := nextElement_cons hf hw
    have hr := hb blanks_nil hform (ends_items (by simp) hothers rest)
    have hi := ih hothers (Nat.lt_of_succ_lt_succ hl)
    rw [List.nil_append] at hr
    simp only [elements, StateT.run_bind, hnext, pure_bind, if_true]
    exact hr.bind fun _ => hi.map (a :: ·)

theorem closeArray_run : closeArray.run (']' :: rest) = pure ((), rest) := by
  simp [closeArray, isBlank, peek_cons, skip_run]

theorem yields_list {losses : β → List String} {as : List α} (hf : Starts Begins Form)
    (h : List.Forall₂ (fun b a => Yields read (Form b) (losses b) a) items as) :
    Yields (readList read) (WrittenArray Form items) (items.flatMap losses) as := by
  rintro before _ rest hb (@⟨inner, hw⟩) -
  have hl := hw.length_le hf
  have he : Outcome (items.flatMap losses) as (']' :: rest)
      ((elements read ((inner ++ rest).length + 1) true).run (inner ++ rest)) :=
    elements_run hf h hw (by rw [List.length_append]; omega)
  have hc : Outcome [] as rest (closeArray.run (']' :: rest) >>= fun q => pure (as, q.2)) := by
    rw [closeArray_run]
    exact .whole rfl
  have hr : Outcome (items.flatMap losses ++ []) as rest
      ((elements read ((inner ++ rest).length + 1) true).run (inner ++ rest) >>= fun p =>
        closeArray.run p.2 >>= fun q => pure (p.1, q.2)) := he.bind fun _ => hc
  rw [List.append_nil] at hr
  simpa [readList, isBlank, peek_run hb, skip_run] using hr

theorem yields_wholeList {as : List α} (hf : Starts Begins Form)
    (h : List.Forall₂ (fun b a => Yields read (Form b) [] a) items as) :
    Yields (readList read) (WrittenArray Form items) [] as := by
  have hnone : items.flatMap (fun _ => []) = ([] : List String) :=
    List.flatMap_eq_nil_iff.mpr fun _ _ => rfl
  have hy := yields_list hf h
  rwa [hnone] at hy

theorem reads_ofList {f : α → Json} (h : ∀ a, Reads read (f a) a) (as : List α) :
    Reads (readList read) (ofList f as) as := by
  have hy : List.Forall₂ (fun v a => Yields read (Written v) [] a) (as.map f) as :=
    List.forall₂_map_left_iff.mpr (List.forall₂_same.mpr fun a _ => (h a).yields)
  rintro before _ rest hb ⟨⟩ he
  next inner hw => exact (yields_wholeList starts_written hy hb ⟨hw⟩ he).eq_ok

/-! ## Members of objects -/

theorem nextMember_nil (hw : WrittenItems Form '\x7d' fromStart [] text) :
    (nextMember fromStart).run (text ++ rest) = pure (false, '\x7d' :: rest) := by
  cases hw with
  | nil hb => simp [nextMember, isBlank, peek_run hb]

theorem nextMember_cons (hf : Starts (· = '"') Form)
    (hw : WrittenItems Form '\x7d' fromStart (b :: items) text) :
    ∃ form others, Form b form ∧ WrittenItems Form '\x7d' false items others ∧ ∀ rest,
      (nextMember fromStart).run (text ++ rest) = pure (true, form ++ (others ++ rest)) := by
  cases hw with
  | first hb hm hs =>
    refine ⟨_, _, hm, hs, fun rest => ?_⟩
    obtain ⟨_, form, rfl, rfl⟩ := hf hm
    simp [nextMember, isBlank, peek_run hb]
  | next hb ha hm hs =>
    refine ⟨_, _, hm, hs, fun rest => ?_⟩
    obtain ⟨_, form, rfl, rfl⟩ := hf hm
    simp [nextMember, isBlank, peek_run hb, skip_run, peek_run ha]

/-! ## Documents -/

theorem document_outcome {Form : List Char → Prop} {s : String} {after : List Char}
    (h : Yields read Form lost a) (hw : Form text) (hs : s.toList = text ++ after)
    (hb : Blanks after) :
    (lost = [] → document read s = .ok a) ∧
      (lost ≠ [] → ∃ name ∈ lost, document read s = .error (.missingField name)) := by
  have hr := h blanks_nil hw (ends_blanks hb ends_nil)
  rw [List.nil_append, List.append_nil, ← hs] at hr
  have hdocument : document read s = read.run s.toList >>= fun p =>
      (atEnd.run p.2 >>= fun _ => pure p.1) := by
    simp [document, StateT.run'_eq]
  rw [hdocument]
  generalize read.run s.toList = r at hr
  cases hr with
  | whole hl =>
    refine ⟨fun _ => ?_, fun hn => absurd hl hn⟩
    simp [atEnd, peek_blanks hb]
    rfl
  | missing hm =>
    refine ⟨fun hl => ?_, fun _ => ⟨_, hm, rfl⟩⟩
    rw [hl] at hm
    cases hm

theorem document_eq_ok {s : String} {after : List Char} (h : Reads read v a)
    (hw : Written v text) (hs : s.toList = text ++ after) (hb : Blanks after) :
    document read s = .ok a :=
  (document_outcome h.yields hw hs hb).1 rfl

end EntityMapping.Document
